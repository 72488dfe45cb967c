import DisplayPowerMgr.DisplayPowerInfo

/-! What the configuration parsers share: the documents cJSON reads for them, the checks of
`DisplayJsonUtils`, and `ConfigParserBase::ParsePointXy`. -/
namespace DisplayPowerMgr

/-- What cJSON makes of a document. -/
inductive CJson where
  | null
  | bool (value : Bool)
  | number (valuedouble : ℚ)
  | string (valuestring : String)
  | array (items : List CJson)
  | object (items : List (String × CJson))

namespace CJson

def INT_MAX : ℤ := 2147483647
def INT_MIN : ℤ := -2147483648

/-- The `valueint` beside a `valuedouble`: the fraction is cut off, and the ends saturate. -/
def valueint (valuedouble : ℚ) : ℤ :=
  if valuedouble ≥ INT_MAX then INT_MAX
  else if valuedouble ≤ INT_MIN then INT_MIN
  else if valuedouble < 0 then -(-valuedouble).floor
  else valuedouble.floor

theorem valueint_intCast {n : ℤ} (hn : INT_MIN ≤ n ∧ n ≤ INT_MAX) : valueint n = n := by
  obtain ⟨hmin, hmax⟩ := hn
  rw [valueint]
  split
  · have : INT_MAX ≤ n := by exact_mod_cast ‹(n : ℚ) ≥ INT_MAX›
    omega
  · split
    · have : n ≤ INT_MIN := by exact_mod_cast ‹(n : ℚ) ≤ INT_MIN›
      omega
    · split
      · have hneg : -(n : ℚ) = ((-n : ℤ) : ℚ) := by push_cast; rfl
        rw [hneg, Rat.floor_intCast, neg_neg]
      · exact Rat.floor_intCast n

/-- Only an object has named items; of several with one name the first is found. -/
def getObjectItemCaseSensitive : CJson → String → Option CJson
  | object items, name => items.lookup name
  | _, _ => none

/-! The checks of `DisplayJsonUtils`, each with the value it lets the caller read. -/

def validJsonStringAndNoEmpty : Option CJson → Option String
  | some (string valuestring) => if valuestring.length > 0 then some valuestring else none
  | _ => none

def validJsonNumber : Option CJson → Option ℚ
  | some (number valuedouble) => some valuedouble
  | _ => none

def validJsonArray : Option CJson → Option (List CJson)
  | some (array items) => some items
  | _ => none

def validJsonBool : Option CJson → Option Bool
  | some (bool value) => some value
  | _ => none

def isObject : CJson → Bool
  | object _ => true
  | _ => false

theorem validJsonStringAndNoEmpty_eq_some {node : Option CJson} {name : String} :
    validJsonStringAndNoEmpty node = some name ↔ node = some (.string name) ∧ 0 < name.length := by
  constructor
  · intro h
    simp only [validJsonStringAndNoEmpty] at h
    split at h
    · split at h
      · obtain rfl := Option.some.inj h
        exact ⟨rfl, ‹_›⟩
      · cases h
    · cases h
  · rintro ⟨rfl, hlength⟩
    simp [validJsonStringAndNoEmpty, hlength]

theorem validJsonArray_eq_some {node : Option CJson} {items : List CJson} :
    validJsonArray node = some items ↔ node = some (.array items) := by
  constructor
  · intro h
    simp only [validJsonArray] at h
    split at h
    · rw [Option.some.inj h]
    · cases h
  · rintro rfl
    rfl

end CJson

open CJson

variable {F : Type} [FloatArithmetic F]

/-- What the parsers store of a number: `static_cast<float>` of its `valuedouble`. -/
def validJsonFloat (node : Option CJson) : Option F := (validJsonNumber node).map float

/-- The loop of `ParsePointXy`: an item that is not a pair ends it, a coordinate that is not a
number keeps its default. -/
def pointsFrom : List CJson → List (PointXy F)
  | .array [xNode, yNode] :: items =>
    let pointXy : PointXy F := {}
    let pointXy := { pointXy with x := (validJsonFloat (some xNode)).getD pointXy.x }
    let pointXy := { pointXy with y := (validJsonFloat (some yNode)).getD pointXy.y }
    pointXy :: pointsFrom items
  | _ => []

def parsePointXy (root : CJson) (name : String) : List (PointXy F) :=
  match validJsonArray (root.getObjectItemCaseSensitive name) with
  | none => []
  | some items => pointsFrom items

end DisplayPowerMgr
