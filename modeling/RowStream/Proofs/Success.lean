/-! What a computation that may fail has done where it succeeded, and where it did not. -/
namespace Except

variable {ε δ α β : Type} {x : Except ε α} {b : β}

theorem of_bind_eq_ok {f : α → Except ε β} (h : (x >>= f) = .ok b) :
    ∃ a, x = .ok a ∧ f a = .ok b := by
  cases x with
  | error e => cases h
  | ok a => exact ⟨a, rfl, h⟩

theorem of_bind_eq_error {f : α → Except ε β} {e : ε} (h : (x >>= f) = .error e) :
    x = .error e ∨ ∃ a, x = .ok a ∧ f a = .error e := by
  cases x with
  | error failure =>
    cases h
    exact .inl rfl
  | ok a => exact .inr ⟨a, rfl, h⟩

theorem of_map_eq_error {f : α → β} {e : ε} (h : f <$> x = .error e) : x = .error e := by
  cases x with
  | error failure =>
    cases h
    rfl
  | ok a => cases h

theorem of_map_eq_ok {f : α → β} (h : f <$> x = .ok b) : ∃ a, x = .ok a ∧ f a = b := by
  cases x with
  | error e => cases h
  | ok a => exact ⟨a, rfl, Except.ok.inj h⟩

theorem of_mapError_eq_ok {f : ε → δ} {a : α} (h : x.mapError f = .ok a) : x = .ok a := by
  cases x with
  | error e => cases h
  | ok found =>
    cases h
    rfl

theorem of_mapError_eq_error {f : ε → δ} {e : δ} (h : x.mapError f = .error e) :
    ∃ cause, x = .error cause ∧ f cause = e := by
  cases x with
  | error cause => exact ⟨cause, rfl, Except.error.inj h⟩
  | ok found => cases h

/-- A list is mapped if every member is, to the member at the same place. -/
theorem mapM_eq_ok_iff {f : α → Except ε β} {members : List α} {found : List β} :
    members.mapM f = .ok found ↔ members.map f = found.map .ok := by
  induction members generalizing found with
  | nil => cases found <;> simp [pure, Except.pure]
  | cons a rest ih =>
    rw [List.mapM_cons, List.map_cons]
    constructor
    · intro h
      obtain ⟨b, first, h⟩ := of_bind_eq_ok h
      obtain ⟨others, later, h⟩ := of_bind_eq_ok h
      obtain rfl := Except.ok.inj h
      rw [first, ih.1 later, List.map_cons]
    · intro h
      cases found with
      | nil => cases h
      | cons b others =>
        obtain ⟨first, later⟩ := List.cons.inj h
        rw [first, ih.2 later]
        rfl

@[simp] theorem isOk_map (f : α → β) : (f <$> x).isOk = x.isOk := by
  cases x <;> rfl

@[simp] theorem toOption_map (f : α → β) : (f <$> x).toOption = x.toOption.map f := by
  cases x <;> rfl

theorem toOption_eq_none_iff : x.toOption = none ↔ ¬ x.isOk := by
  cases x with
  | error e => exact iff_of_true rfl nofun
  | ok a => exact iff_of_false nofun fun failed => failed rfl

theorem mapM_isOk_iff {f : α → Except ε β} {members : List α} :
    (members.mapM f).isOk ↔ ∀ a ∈ members, (f a).isOk := by
  induction members with
  | nil => exact iff_of_true rfl (by simp)
  | cons a rest ih =>
    rw [List.mapM_cons, List.forall_mem_cons, ← ih]
    cases f a with
    | error e => exact iff_of_false nofun fun both => nomatch both.1
    | ok b => cases rest.mapM f <;> simp [Except.isOk, Except.toBool, bind, Except.bind, pure,
        Except.pure]

/-- Where two maps have the same result, they have the same one at every member. -/
theorem exists_of_mapM_eq_ok {f g : α → Except ε β} {members : List α} {found : List β}
    (h : members.mapM f = .ok found) (h' : members.mapM g = .ok found) :
    ∀ a ∈ members, ∃ b, f a = .ok b ∧ g a = .ok b := by
  rw [mapM_eq_ok_iff] at h h'
  intro a mem
  have alike := List.map_inj_left.1 (h.trans h'.symm) a mem
  have place := List.mem_map_of_mem (f := f) mem
  rw [h] at place
  obtain ⟨b, -, eq⟩ := List.mem_map.1 place
  exact ⟨b, eq.symm, alike.symm.trans eq.symm⟩

theorem mapM_congr {f g : α → Except ε β} {members : List α} (h : ∀ a ∈ members, f a = g a) :
    members.mapM f = members.mapM g := by
  induction members with
  | nil => rfl
  | cons a rest ih =>
    obtain ⟨first, others⟩ := List.forall_mem_cons.1 h
    rw [List.mapM_cons, List.mapM_cons, first, ih others]

/-- Every error that the computation may end in has the property. -/
def FailsOnly (P : ε → Prop) (x : Except ε α) : Prop := ∀ e, x = .error e → P e

section FailsOnly

variable {P Q : ε → Prop}

theorem failsOnly_ok (a : α) : FailsOnly P (.ok a : Except ε α) := fun _ h => nomatch h

theorem failsOnly_error {e : ε} (h : P e) : FailsOnly P (.error e : Except ε α) := fun _ same => by
  cases same
  exact h

theorem FailsOnly.mono (h : x.FailsOnly P) (weaker : ∀ e, P e → Q e) : x.FailsOnly Q :=
  fun e failed => weaker e (h e failed)

theorem FailsOnly.bind (h : x.FailsOnly P) {f : α → Except ε β}
    (next : ∀ a, x = .ok a → (f a).FailsOnly P) : (x >>= f).FailsOnly P := by
  intro e failed
  obtain first | ⟨a, given, later⟩ := of_bind_eq_error failed
  · exact h e first
  · exact next a given e later

theorem FailsOnly.map (h : x.FailsOnly P) (f : α → β) : (f <$> x).FailsOnly P :=
  fun e failed => h e (of_map_eq_error failed)

theorem FailsOnly.mapError (h : x.FailsOnly P) {f : ε → δ} {R : δ → Prop}
    (each : ∀ e, P e → R (f e)) : (x.mapError f).FailsOnly R := by
  intro e failed
  obtain ⟨cause, first, rfl⟩ := of_mapError_eq_error failed
  exact each cause (h cause first)

end FailsOnly

theorem exists_of_isOk {P : α → Prop} (h : x.isOk) (next : ∀ a, x = .ok a → P a) :
    ∃ a, x = .ok a ∧ P a := by
  cases x with
  | error e => cases h
  | ok a => exact ⟨a, rfl, next a rfl⟩

theorem of_toOption_eq_some {a : α} (h : x.toOption = some a) : x = .ok a := by
  cases x with
  | error e => cases h
  | ok b => exact congrArg Except.ok (Option.some.inj h)

theorem exists_of_toOption_map_eq_some {f : α → β} (h : x.toOption.map f = some b) :
    ∃ a, x = .ok a ∧ f a = b := by
  obtain ⟨a, given, same⟩ := Option.map_eq_some_iff.1 h
  exact ⟨a, of_toOption_eq_some given, same⟩

def error? : Except ε α → Option ε
  | .error e => some e
  | .ok _ => none

theorem of_error?_eq_some {e : ε} (h : x.error? = some e) : x = .error e := by
  cases x with
  | error failure => exact congrArg Except.error (Option.some.inj h)
  | ok a => cases h

end Except
