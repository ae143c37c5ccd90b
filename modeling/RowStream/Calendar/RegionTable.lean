import RowStream.Calendar.Region

/-! A small time zone database, which programs use. -/
namespace RowStream.Region

/-- So many seconds before 1970. -/
def before (seconds : Nat) : Int := -seconds

/-- So many seconds west of UTC. -/
def west (seconds : Nat) : Int := -seconds

def easternStandard : Region where
  name := "EST".toList
  first := west 19088
  changes := [
    (before 2524502512, west 19176), (before 1946918424, west 18000)]
  later := .constant (west 18000)

def newYork : Region where
  name := "America/New_York".toList
  first := west 17762
  changes := [
    (before 2717650800, west 18000), (before 1633280400, west 14400),
    (before 1615140000, west 18000), (before 1601830800, west 14400),
    (before 1583690400, west 18000), (before 1570381200, west 14400),
    (before 1551636000, west 18000), (before 1536512400, west 14400),
    (before 1523210400, west 18000), (before 1504458000, west 14400),
    (before 1491760800, west 18000), (before 1473008400, west 14400),
    (before 1459706400, west 18000), (before 1441558800, west 14400),
    (before 1428256800, west 18000), (before 1410109200, west 14400),
    (before 1396807200, west 18000), (before 1378659600, west 14400),
    (before 1365357600, west 18000), (before 1347210000, west 14400),
    (before 1333908000, west 18000), (before 1315155600, west 14400),
    (before 1301853600, west 18000), (before 1283706000, west 14400),
    (before 1270404000, west 18000), (before 1252256400, west 14400),
    (before 1238954400, west 18000), (before 1220806800, west 14400),
    (before 1207504800, west 18000), (before 1189357200, west 14400),
    (before 1176055200, west 18000), (before 1157302800, west 14400),
    (before 1144605600, west 18000), (before 1125853200, west 14400),
    (before 1112551200, west 18000), (before 1094403600, west 14400),
    (before 1081101600, west 18000), (before 1062954000, west 14400),
    (before 1049652000, west 18000), (before 1031504400, west 14400),
    (before 1018202400, west 18000), (before 1000054800, west 14400),
    (before 986752800, west 18000), (before 968000400, west 14400), (before 955303200, west 18000),
    (before 936550800, west 14400), (before 923248800, west 18000), (before 905101200, west 14400),
    (before 891799200, west 18000), (before 880218000, west 14400), (before 769395600, west 14400),
    (before 765396000, west 18000), (before 747248400, west 14400), (before 733946400, west 18000),
    (before 715798800, west 14400), (before 702496800, west 18000), (before 684349200, west 14400),
    (before 671047200, west 18000), (before 652899600, west 14400), (before 639597600, west 18000),
    (before 620845200, west 14400), (before 608148000, west 18000), (before 589395600, west 14400),
    (before 576093600, west 18000), (before 557946000, west 14400), (before 544644000, west 18000),
    (before 526496400, west 14400), (before 513194400, west 18000), (before 495046800, west 14400),
    (before 481744800, west 18000), (before 463597200, west 14400), (before 447271200, west 18000),
    (before 431542800, west 14400), (before 415821600, west 18000), (before 400093200, west 14400),
    (before 384372000, west 18000), (before 368643600, west 14400), (before 352922400, west 18000),
    (before 337194000, west 14400), (before 321472800, west 18000), (before 305744400, west 14400),
    (before 289418400, west 18000), (before 273690000, west 14400), (before 257968800, west 18000),
    (before 242240400, west 14400), (before 226519200, west 18000), (before 210790800, west 14400),
    (before 195069600, west 18000), (before 179341200, west 14400), (before 163620000, west 18000),
    (before 147891600, west 14400), (before 131565600, west 18000), (before 116442000, west 14400),
    (before 100116000, west 18000), (before 84387600, west 14400), (before 68666400, west 18000),
    (before 52938000, west 14400), (before 37216800, west 18000), (before 21488400, west 14400),
    (before 5767200, west 18000), (9961200, west 14400), (25682400, west 18000),
    (41410800, west 14400), (57736800, west 18000), (73465200, west 14400), (89186400, west 18000),
    (104914800, west 14400), (120636000, west 18000), (126687600, west 14400),
    (152085600, west 18000), (162370800, west 14400), (183535200, west 18000),
    (199263600, west 14400), (215589600, west 18000), (230713200, west 14400),
    (247039200, west 18000), (262767600, west 14400), (278488800, west 18000),
    (294217200, west 14400), (309938400, west 18000), (325666800, west 14400),
    (341388000, west 18000), (357116400, west 14400), (372837600, west 18000),
    (388566000, west 14400), (404892000, west 18000), (420015600, west 14400),
    (436341600, west 18000), (452070000, west 14400), (467791200, west 18000),
    (483519600, west 14400), (499240800, west 18000), (514969200, west 14400),
    (530690400, west 18000), (544604400, west 14400), (562140000, west 18000),
    (576054000, west 14400), (594194400, west 18000), (607503600, west 14400),
    (625644000, west 18000), (638953200, west 14400), (657093600, west 18000),
    (671007600, west 14400), (688543200, west 18000), (702457200, west 14400),
    (719992800, west 18000), (733906800, west 14400), (752047200, west 18000),
    (765356400, west 14400), (783496800, west 18000), (796806000, west 14400),
    (814946400, west 18000), (828860400, west 14400), (846396000, west 18000),
    (860310000, west 14400), (877845600, west 18000), (891759600, west 14400),
    (909295200, west 18000), (923209200, west 14400), (941349600, west 18000),
    (954658800, west 14400), (972799200, west 18000), (986108400, west 14400),
    (1004248800, west 18000), (1018162800, west 14400), (1035698400, west 18000),
    (1049612400, west 14400), (1067148000, west 18000), (1081062000, west 14400),
    (1099202400, west 18000), (1112511600, west 14400), (1130652000, west 18000),
    (1143961200, west 14400), (1162101600, west 18000), (1173596400, west 14400)]
  later := .seasonal (west 18000) (west 14400) ⟨3, 2, 0, 7200⟩ ⟨11, 1, 0, 7200⟩

def saoPaulo : Region where
  name := "America/Sao_Paulo".toList
  first := west 11188
  changes := [
    (before 1767214412, west 10800), (before 1206957600, west 7200),
    (before 1191362400, west 10800), (before 1175374800, west 7200),
    (before 1159826400, west 10800), (before 633819600, west 7200), (before 622069200, west 10800),
    (before 602283600, west 7200), (before 591832800, west 10800), (before 570747600, west 7200),
    (before 560210400, west 10800), (before 539125200, west 7200), (before 531352800, west 10800),
    (before 195426000, west 7200), (before 184197600, west 10800), (before 155163600, west 7200),
    (before 150069600, west 10800), (before 128898000, west 7200), (before 121125600, west 10800),
    (before 99954000, west 7200), (before 89589600, west 10800), (before 68418000, west 7200),
    (before 57967200, west 10800), (499748400, west 7200), (511236000, west 10800),
    (530593200, west 7200), (540266400, west 10800), (562129200, west 7200),
    (571197600, west 10800), (592974000, west 7200), (602042400, west 10800),
    (624423600, west 7200), (634701600, west 10800), (656478000, west 7200),
    (666756000, west 10800), (687927600, west 7200), (697600800, west 10800),
    (719982000, west 7200), (728445600, west 10800), (750826800, west 7200),
    (761709600, west 10800), (782276400, west 7200), (793159200, west 10800),
    (813726000, west 7200), (824004000, west 10800), (844570800, west 7200),
    (856058400, west 10800), (876106800, west 7200), (888717600, west 10800),
    (908074800, west 7200), (919562400, west 10800), (938919600, west 7200),
    (951616800, west 10800), (970974000, west 7200), (982461600, west 10800),
    (1003028400, west 7200), (1013911200, west 10800), (1036292400, west 7200),
    (1045360800, west 10800), (1066532400, west 7200), (1076810400, west 10800),
    (1099364400, west 7200), (1108864800, west 10800), (1129431600, west 7200),
    (1140314400, west 10800), (1162695600, west 7200), (1172368800, west 10800),
    (1192330800, west 7200), (1203213600, west 10800), (1224385200, west 7200),
    (1234663200, west 10800), (1255834800, west 7200), (1266717600, west 10800),
    (1287284400, west 7200), (1298167200, west 10800), (1318734000, west 7200),
    (1330221600, west 10800), (1350788400, west 7200), (1361066400, west 10800),
    (1382238000, west 7200), (1392516000, west 10800), (1413687600, west 7200),
    (1424570400, west 10800), (1445137200, west 7200), (1456020000, west 10800),
    (1476586800, west 7200), (1487469600, west 10800), (1508036400, west 7200),
    (1518919200, west 10800), (1541300400, west 7200), (1550368800, west 10800)]
  later := .constant (west 10800)

def kathmandu : Region where
  name := "Asia/Kathmandu".toList
  first := 20476
  changes := [
    (before 1577943676, 19800), (504901800, 20700)]
  later := .constant 20700

def kolkata : Region where
  name := "Asia/Kolkata".toList
  first := 21208
  changes := [
    (before 3645237208, 21200), (before 3155694800, 19270), (before 2019705670, 19800),
    (before 891581400, 23400), (before 872058600, 19800), (before 862637400, 23400),
    (before 764145000, 19800)]
  later := .constant 19800

def tokyo : Region where
  name := "Asia/Tokyo".toList
  first := 33539
  changes := [
    (before 2587712400, 32400), (before 683802000, 36000), (before 672310800, 32400),
    (before 654771600, 36000), (before 640861200, 32400), (before 620298000, 36000),
    (before 609411600, 32400), (before 588848400, 36000), (before 577962000, 32400)]
  later := .constant 32400

def lordHowe : Region where
  name := "Australia/Lord_Howe".toList
  first := 38180
  changes := [
    (before 2364114980, 36000), (352216800, 37800), (372785400, 41400), (384273000, 37800),
    (404839800, 41400), (415722600, 37800), (436289400, 41400), (447172200, 37800),
    (467739000, 41400), (478621800, 37800), (499188600, 39600), (511282800, 37800),
    (530033400, 39600), (542732400, 37800), (562087800, 39600), (574786800, 37800),
    (594142200, 39600), (606236400, 37800), (625591800, 39600), (636476400, 37800),
    (657041400, 39600), (667926000, 37800), (688491000, 39600), (699375600, 37800),
    (719940600, 39600), (731430000, 37800), (751995000, 39600), (762879600, 37800),
    (783444600, 39600), (794329200, 37800), (814894200, 39600), (828198000, 37800),
    (846343800, 39600), (859647600, 37800), (877793400, 39600), (891097200, 37800),
    (909243000, 39600), (922546800, 37800), (941297400, 39600), (953996400, 37800),
    (967303800, 39600), (985446000, 37800), (1004196600, 39600), (1017500400, 37800),
    (1035646200, 39600), (1048950000, 37800), (1067095800, 39600), (1080399600, 37800),
    (1099150200, 39600), (1111849200, 37800), (1130599800, 39600), (1143903600, 37800),
    (1162049400, 39600), (1174748400, 37800), (1193499000, 39600), (1207407600, 37800)]
  later := .seasonal 37800 39600 ⟨10, 1, 0, 7200⟩ ⟨4, 1, 0, 7200⟩

def berlin : Region where
  name := "Europe/Berlin".toList
  first := 3208
  changes := [
    (before 2422054408, 3600), (before 1693706400, 7200), (before 1680483600, 3600),
    (before 1663455600, 7200), (before 1650150000, 3600), (before 1632006000, 7200),
    (before 1618700400, 3600), (before 938905200, 7200), (before 857257200, 3600),
    (before 844556400, 7200), (before 828226800, 3600), (before 812502000, 7200),
    (before 796777200, 3600), (before 781052400, 7200), (before 776563200, 10800),
    (before 765936000, 7200), (before 761180400, 3600), (before 748479600, 7200),
    (before 733273200, 3600), (before 717631200, 7200), (before 714610800, 10800),
    (before 710380800, 7200), (before 701910000, 3600), (before 684975600, 7200),
    (before 670460400, 3600), (before 654130800, 7200), (before 639010800, 3600), (323830800, 7200),
    (338950800, 3600), (354675600, 7200), (370400400, 3600), (386125200, 7200), (401850000, 3600),
    (417574800, 7200), (433299600, 3600), (449024400, 7200), (465354000, 3600), (481078800, 7200),
    (496803600, 3600), (512528400, 7200), (528253200, 3600), (543978000, 7200), (559702800, 3600),
    (575427600, 7200), (591152400, 3600), (606877200, 7200), (622602000, 3600), (638326800, 7200),
    (654656400, 3600), (670381200, 7200), (686106000, 3600), (701830800, 7200), (717555600, 3600),
    (733280400, 7200), (749005200, 3600), (764730000, 7200), (780454800, 3600), (796179600, 7200),
    (811904400, 3600), (828234000, 7200)]
  later := .seasonal 3600 7200 ⟨3, 5, 0, 7200⟩ ⟨10, 5, 0, 10800⟩

def dublin : Region where
  name := "Europe/Dublin".toList
  first := west 1521
  changes := [
    (before 2821649679, west 1521), (before 1691962479, 2079), (before 1680471279, 0),
    (before 1664143200, 3600), (before 1650146400, 0), (before 1633903200, 3600),
    (before 1617487200, 0), (before 1601848800, 3600), (before 1586037600, 0),
    (before 1570399200, 3600), (before 1552168800, 0), (before 1538344800, 3600),
    (before 1522533600, 0), (before 1507500000, 3600), (before 1490565600, 0),
    (before 1473631200, 3600), (before 1460930400, 0), (before 1442786400, 3600),
    (before 1428876000, 0), (before 1410732000, 3600), (before 1396216800, 0),
    (before 1379282400, 3600), (before 1364767200, 0), (before 1348437600, 3600),
    (before 1333317600, 0), (before 1315778400, 3600), (before 1301263200, 0),
    (before 1284328800, 3600), (before 1269813600, 0), (before 1253484000, 3600),
    (before 1238364000, 0), (before 1221429600, 3600), (before 1206914400, 0),
    (before 1189980000, 3600), (before 1175464800, 0), (before 1159135200, 3600),
    (before 1143410400, 0), (before 1126476000, 3600), (before 1111960800, 0),
    (before 1095631200, 3600), (before 1080511200, 0), (before 1063576800, 3600),
    (before 1049061600, 0), (before 1032127200, 3600), (before 1017612000, 0),
    (before 1001282400, 3600), (before 986162400, 0), (before 969228000, 3600),
    (before 950479200, 0), (before 942012000, 3600), (before 733356000, 0),
    (before 719445600, 3600), (before 699487200, 0), (before 684972000, 3600),
    (before 668037600, 0), (before 654732000, 3600), (before 636588000, 0),
    (before 622072800, 3600), (before 605743200, 0), (before 590623200, 3600),
    (before 574293600, 0), (before 558568800, 3600), (before 542239200, 0),
    (before 527119200, 3600), (before 512604000, 0), (before 496274400, 3600),
    (before 481154400, 0), (before 464220000, 3600), (before 449704800, 0),
    (before 432165600, 3600), (before 417650400, 0), (before 401320800, 3600),
    (before 386200800, 0), (before 369266400, 3600), (before 354751200, 0),
    (before 337816800, 3600), (before 323301600, 0), (before 306972000, 3600),
    (before 291852000, 0), (before 276732000, 3600), (before 257983200, 0),
    (before 245282400, 3600), (before 226533600, 0), (before 213228000, 3600),
    (before 195084000, 0), (before 182383200, 3600), (before 163634400, 0),
    (before 150933600, 3600), (before 132184800, 0), (before 119484000, 3600),
    (before 100735200, 0), (before 88034400, 3600), (before 68680800, 0), (before 59004000, 3600),
    (before 37242000, 3600), (57722400, 0), (69818400, 3600), (89172000, 0), (101268000, 3600),
    (120621600, 0), (132717600, 3600), (152071200, 0), (164167200, 3600), (183520800, 0),
    (196221600, 3600), (214970400, 0), (227671200, 3600), (246420000, 0), (259120800, 3600),
    (278474400, 0), (290570400, 3600), (309924000, 0), (322020000, 3600), (341373600, 0),
    (354675600, 3600), (372819600, 0), (386125200, 3600), (404269200, 0), (417574800, 3600),
    (435718800, 0), (449024400, 3600), (467773200, 0), (481078800, 3600), (499222800, 0),
    (512528400, 3600), (530672400, 0), (543978000, 3600), (562122000, 0), (575427600, 3600),
    (593571600, 0), (606877200, 3600), (625626000, 0), (638326800, 3600), (657075600, 0),
    (670381200, 3600), (688525200, 0), (701830800, 3600), (719974800, 0), (733280400, 3600),
    (751424400, 0), (764730000, 3600), (782874000, 0), (796179600, 3600), (814323600, 0),
    (828234000, 3600)]
  later := .seasonal 3600 0 ⟨10, 5, 0, 7200⟩ ⟨3, 5, 0, 3600⟩

def apia : Region where
  name := "Pacific/Apia".toList
  first := 45184
  changes := [
    (before 2445424384, west 41216), (before 1861878784, west 41400),
    (before 631110600, west 39600), (1285498800, west 36000), (1301752800, west 39600),
    (1316872800, west 36000), (1325239200, 50400), (1333202400, 46800), (1348927200, 50400),
    (1365256800, 46800), (1380376800, 50400), (1396706400, 46800), (1411826400, 50400),
    (1428156000, 46800), (1443276000, 50400), (1459605600, 46800), (1474725600, 50400),
    (1491055200, 46800), (1506175200, 50400), (1522504800, 46800), (1538229600, 50400),
    (1554559200, 46800), (1569679200, 50400), (1586008800, 46800), (1601128800, 50400),
    (1617458400, 46800)]
  later := .constant 46800

def known : List Region := [
  easternStandard, newYork, saoPaulo, kathmandu, kolkata, tokyo, lordHowe, berlin, dublin, apia]

/-- The region of exactly that name. -/
def find? (name : Text) : Option Region := known.find? fun r => r.name = name

instance : ZoneDatabase := ⟨find?⟩

theorem plainNames : ZoneDatabase.PlainNames where
  named := rfl
  quotable name region found := by
    have all : ∀ r ∈ known, r.name.all fun c => c ≠ '\'' && c ≠ '\\' := by decide +kernel
    have found : known.find? (fun r => r.name = name) = some region := found
    have same : region.name = name := by simpa using List.find?_some found
    have plain := all region (List.mem_of_find?_eq_some found)
    rw [same] at plain
    simpa using plain

end RowStream.Region
