import RowStream.Settings
import RowStream.Source.Chunker
import RowStream.Source.Basic
import RowStream.Source.File
import RowStream.Source.Response

/-! What a result can be read from, and the source that each becomes. -/
namespace RowStream

/-- What a caller hands over. A source of its own is read as it is, and so are chunks. -/
inductive Input where
  | memory (data : Bytes)
  | file (content : Bytes)
  | chunks (chunks : List Bytes)
  | body (data : Bytes)
  | bodyChunks (chunks : List Bytes)
  | script (source : ScriptSource)
  | foreign (kind : Text)

inductive InputSource [ResponseClient] where
  | memory (s : MemorySource)
  | file (s : FileSource)
  | chunks (s : ChunkSource)
  | response (s : ResponseSource)
  | script (s : ScriptSource)

namespace InputSource

variable [ResponseClient]

def read : InputSource → Except SourceFault Bytes × InputSource
  | .memory s => ((Source.read s).1, .memory (Source.read s).2)
  | .file s => ((Source.read s).1, .file (Source.read s).2)
  | .chunks s => ((Source.read s).1, .chunks (Source.read s).2)
  | .response s => ((Source.read s).1, .response (Source.read s).2)
  | .script s => ((Source.read s).1, .script (Source.read s).2)

def close : InputSource → Except SourceFault Unit × InputSource
  | .memory s => ((Source.close s).1, .memory (Source.close s).2)
  | .file s => ((Source.close s).1, .file (Source.close s).2)
  | .chunks s => ((Source.close s).1, .chunks (Source.close s).2)
  | .response s => ((Source.close s).1, .response (Source.close s).2)
  | .script s => ((Source.close s).1, .script (Source.close s).2)

def statementClosed : InputSource → InputSource
  | .memory s => .memory (Source.statementClosed s)
  | .file s => .file (Source.statementClosed s)
  | .chunks s => .chunks (Source.statementClosed s)
  | .response s => .response (Source.statementClosed s)
  | .script s => .script (Source.statementClosed s)

def size : InputSource → Nat
  | .memory s => Source.size s
  | .file s => Source.size s
  | .chunks s => Source.size s
  | .response s => Source.size s
  | .script s => Source.size s

instance : Source InputSource where
  read := read
  close := close
  statementClosed := statementClosed
  size := size
  size_read
    | .memory s => Source.size_read s
    | .file s => Source.size_read s
    | .chunks s => Source.size_read s
    | .response s => Source.size_read s
    | .script s => Source.size_read s

/-- Whether it is closed, where that shows. -/
def closed? : InputSource → Option Bool
  | .memory s => some s.closed
  | .file s => some s.closed
  | .chunks _ => none
  | .response s => some (ResponseClient.isClosed s.response)
  | .script s => some s.closed

end InputSource

/-- The source of an input. The piece size is looked up where the input is to be cut. -/
def Input.source [ResponseClient] (env : Environment) (asked : Option Int) :
    Input → Except Error InputSource
  | .memory data => return .memory (.ofBytes data (← env.pieceSize asked))
  | .file content => return .file (.ofBytes .memory content (← env.pieceSize asked))
  | .chunks pending => .ok (.chunks ⟨pending⟩)
  | .body data =>
    return .response ⟨ResponseClient.loaded data (← env.pieceSize asked), false⟩
  | .bodyChunks pending =>
    return .response ⟨ResponseClient.streamed pending (← env.pieceSize asked), false⟩
  | .script source => .ok (.script source)
  | .foreign kind => .error (.unreadable kind)

end RowStream
