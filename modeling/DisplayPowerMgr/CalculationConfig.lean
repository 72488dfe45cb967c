import DisplayPowerMgr.CalculationManager
import DisplayPowerMgr.ConfigParserBase

/-! `CalculationConfigParser`: from the text of the configuration file to the points of the
brightness curve. -/
namespace DisplayPowerMgr

open CJson

structure CalculationConfigData (F : Type := ℚ) [FloatArithmetic F] where
  defaultBrightness : F := float 35
  defaultPoints : List (PointXy F) := ({} : BrightnessCalculationCurve F).defaultPoints
  deriving DecidableEq, Repr

namespace CalculationConfigParser

variable {F : Type} [FloatArithmetic F]

/-- `cJsonParse` is cJSON's parser, without an answer for a text that is not JSON. -/
def parseConfigJsonRoot (cJsonParse : String → Option CJson) (fileContent : String)
    (data : CalculationConfigData F) : CalculationConfigData F × Bool :=
  match cJsonParse fileContent with
  | none => (data, false)
  | some root =>
    if !root.isObject then (data, false)
    else
      ({ data with
          defaultBrightness :=
            (validJsonFloat (root.getObjectItemCaseSensitive "defaultBrightness")).getD
              data.defaultBrightness
          defaultPoints := parsePointXy root "defaultPoints" }, true)

/-- What `ConfigParse::Initialize` leaves for a display, whatever the parser answered. -/
def calculationConfig (cJsonParse : String → Option CJson) (fileContent : String) :
    CalculationConfigData F :=
  (parseConfigJsonRoot cJsonParse fileContent {}).1

def isPair : CJson → Bool
  | .array [_, _] => true
  | _ => false

/-- The point of a pair: a coordinate that is not a number is -1. -/
def pairPoint : CJson → PointXy Single
  | .array [xNode, yNode] =>
    ⟨(validJsonFloat (some xNode)).getD (float (-1)),
      (validJsonFloat (some yNode)).getD (float (-1))⟩
  | _ => {}

def fileItems (document : Option CJson) : Option (List CJson) :=
  document.bind fun root => validJsonArray (root.getObjectItemCaseSensitive "defaultPoints")

/-- All the points, when every item is an array of exactly two numbers. -/
def readPoints : List CJson → Option (List (PointXy Single))
  | [] => some []
  | .array [.number x, .number y] :: items => (readPoints items).map (.of x y :: ·)
  | _ :: _ => none

theorem pointsFrom_eq (items : List CJson) :
    (pointsFrom items : List (PointXy Single)) = (items.takeWhile isPair).map pairPoint := by
  induction items with
  | nil => rfl
  | cons item items ih =>
    rw [pointsFrom.eq_def, List.takeWhile_cons]
    split
    · rename_i heq
      obtain ⟨rfl, rfl⟩ := List.cons.inj heq
      simp only [isPair, if_true, List.map_cons, ih]
      rfl
    · rename_i hother
      have hnone : isPair item = false := by
        cases hpair : isPair item with
        | false => rfl
        | true =>
          rw [isPair.eq_def] at hpair
          split at hpair
          · exact absurd rfl (hother _ _ items)
          · cases hpair
      simp [hnone]

theorem readPoints_cons {item : CJson} {items : List CJson} {points : List (PointXy Single)} :
    readPoints (item :: items) = some points ↔
      ∃ x y rest, item = .array [.number x, .number y] ∧ readPoints items = some rest ∧
        points = .of x y :: rest := by
  constructor
  · intro h
    rw [readPoints.eq_def] at h
    split at h
    · cases ‹_ :: _ = []›
    · rename_i x y items' heq
      obtain ⟨rfl, rfl⟩ := List.cons.inj heq
      obtain ⟨rest, hrest, rfl⟩ := Option.map_eq_some_iff.mp h
      exact ⟨x, y, rest, rfl, hrest, rfl⟩
    · cases h
  · rintro ⟨x, y, rest, rfl, hrest, rfl⟩
    rw [readPoints, hrest]
    rfl

theorem pointsFrom_of_readPoints {items : List CJson} {points : List (PointXy Single)}
    (h : readPoints items = some points) : pointsFrom items = points := by
  induction items generalizing points with
  | nil => exact Option.some.inj h
  | cons item items ih =>
    obtain ⟨x, y, rest, rfl, hrest, rfl⟩ := readPoints_cons.mp h
    rw [pointsFrom, ih hrest]
    rfl

theorem readPoints_length {items : List CJson} {points : List (PointXy Single)}
    (h : readPoints items = some points) : points.length = items.length := by
  induction items generalizing points with
  | nil => exact Option.some.inj h ▸ rfl
  | cons item items ih =>
    obtain ⟨x, y, rest, rfl, hrest, rfl⟩ := readPoints_cons.mp h
    rw [List.length_cons, List.length_cons, ih hrest]

theorem mem_readPoints {items : List CJson} {points : List (PointXy Single)}
    (h : readPoints items = some points) {point : PointXy Single} (hpoint : point ∈ points) :
    ∃ x y, .array [.number x, .number y] ∈ items ∧ point = .of x y := by
  induction items generalizing points with
  | nil =>
    obtain rfl := Option.some.inj h
    cases hpoint
  | cons item items ih =>
    obtain ⟨x, y, rest, rfl, hrest, rfl⟩ := readPoints_cons.mp h
    rcases List.mem_cons.mp hpoint with rfl | hmem
    · exact ⟨x, y, List.mem_cons_self, rfl⟩
    · obtain ⟨x', y', hitem, heq⟩ := ih hrest hmem
      exact ⟨x', y', List.mem_cons_of_mem _ hitem, heq⟩

theorem readPoints_of_pointsFrom {items : List CJson}
    (h : ∀ point ∈ (pointsFrom items : List (PointXy Single)),
      point.x ≠ float (-1) ∧ point.y ≠ float (-1)) :
    ∃ front back, items = front ++ back ∧ readPoints front = some (pointsFrom items) := by
  induction items with
  | nil => exact ⟨[], [], rfl, rfl⟩
  | cons item items ih =>
    rw [pointsFrom.eq_def] at h ⊢
    split at h
    · rename_i xNode yNode items' heq
      obtain ⟨rfl, rfl⟩ := List.cons.inj heq
      obtain ⟨front, back, hitems, hfront⟩ :=
        ih fun point hpoint => h point (List.mem_cons_of_mem _ hpoint)
      obtain ⟨hx, hy⟩ := h _ List.mem_cons_self
      dsimp only at hx hy ⊢
      have hnumber (node : CJson)
          (hnode : (validJsonFloat (some node)).getD (float (-1) : Single) ≠ float (-1)) :
          ∃ valuedouble, node = .number valuedouble := by
        cases node with
        | number valuedouble => exact ⟨valuedouble, rfl⟩
        | _ => exact absurd rfl hnode
      obtain ⟨x, rfl⟩ := hnumber xNode hx
      obtain ⟨y, rfl⟩ := hnumber yNode hy
      exact ⟨.array [.number x, .number y] :: front, back, by rw [hitems]; rfl,
        readPoints_cons.mpr ⟨x, y, _, rfl, hfront, rfl⟩⟩
    · exact ⟨[], item :: items, rfl, rfl⟩

def builtInPoints : List (PointXy Single) := ({} : BrightnessCalculationCurve Single).defaultPoints

/-- The points are those of the file, all of them, or the built-in ones; there are some, they do
not stop in the middle of the file, and every coordinate is a number in it, as a `float`. -/
structure AllOrNothing (document : Option CJson) (points : List (PointXy Single)) : Prop where
  whole : (∃ items, fileItems document = some items ∧ readPoints items = some points) ∨
    points = builtInPoints
  nonempty : points ≠ []
  untruncated : ∀ front back, fileItems document = some (front ++ back) →
    readPoints front = some points → back = []
  numbers : points = builtInPoints ∨ ∃ items, fileItems document = some items ∧
    ∀ point ∈ points, ∃ x y, .array [.number x, .number y] ∈ items ∧ point = .of x y

/-- Not an object, so that nothing is read, or an object with an array of points that has an item
and only items that are arrays of exactly two numbers. -/
def WellFormed (document : Option CJson) : Prop :=
  ∀ root, document = some root → root.isObject = true →
    ∃ items points, fileItems document = some items ∧ items ≠ [] ∧
      readPoints items = some points

theorem calculationConfig_points (cJsonParse : String → Option CJson) (fileContent : String) :
    (calculationConfig cJsonParse fileContent).defaultPoints =
      match cJsonParse fileContent with
      | none => builtInPoints
      | some root =>
        if root.isObject then parsePointXy root "defaultPoints" else builtInPoints := by
  rw [calculationConfig, parseConfigJsonRoot]
  cases cJsonParse fileContent with
  | none => rfl
  | some root => cases hobject : root.isObject <;> simp [hobject, builtInPoints]

theorem fileItems_of_not_object {root : CJson} (h : root.isObject = false) :
    fileItems (some root) = none := by
  cases root with
  | object items => cases h
  | _ => rfl

theorem allOrNothing_builtIn {document : Option CJson} (h : fileItems document = none) :
    AllOrNothing document builtInPoints where
  whole := Or.inr rfl
  nonempty := by decide +kernel
  untruncated front back hitems := by
    rw [h] at hitems
    cases hitems
  numbers := Or.inl rfl

theorem allOrNothing_whole {document : Option CJson} {items : List CJson}
    {points : List (PointXy Single)}
    (hitems : fileItems document = some items) (hne : items ≠ [])
    (hpoints : readPoints items = some points) : AllOrNothing document points where
  whole := Or.inl ⟨items, hitems, hpoints⟩
  nonempty := by
    rintro rfl
    exact hne (List.length_eq_zero_iff.mp (readPoints_length hpoints).symm)
  untruncated front back hsplit hfront := by
    have hsame := Option.some.inj (hitems.symm.trans hsplit)
    have hall := readPoints_length hpoints
    rw [hsame, List.length_append, ← readPoints_length hfront] at hall
    exact List.length_eq_zero_iff.mp (by omega)
  numbers := Or.inr ⟨items, hitems, fun _ hpoint => mem_readPoints hpoints hpoint⟩

/-- Nothing but the whole array of the file passes as all of its points, the built-in curve
included. -/
theorem AllOrNothing.wellFormed {root : CJson}
    (h : AllOrNothing (some root) (parsePointXy root "defaultPoints")) :
    ∃ items points, fileItems (some root) = some items ∧ items ≠ [] ∧
      readPoints items = some points := by
  rw [parsePointXy] at h
  have hfile : fileItems (some root) =
      validJsonArray (root.getObjectItemCaseSensitive "defaultPoints") := rfl
  cases hitems : validJsonArray (root.getObjectItemCaseSensitive "defaultPoints") with
  | none =>
    rw [hitems] at h
    exact absurd rfl h.nonempty
  | some items =>
    rw [hitems] at h hfile
    dsimp only at h
    have hne : items ≠ [] := by
      rintro rfl
      exact h.nonempty rfl
    rcases h.whole with ⟨items', hitems', hread⟩ | hbuiltIn
    · exact ⟨items', _, hitems', Option.some.inj (hfile.symm.trans hitems') ▸ hne, hread⟩
    · have hclean : ∀ point ∈ (pointsFrom items : List (PointXy Single)),
          point.x ≠ float (-1) ∧ point.y ≠ float (-1) := by
        rw [hbuiltIn]
        decide +kernel
      obtain ⟨front, back, hsplit, hfront⟩ := readPoints_of_pointsFrom hclean
      obtain rfl := h.untruncated front back (by rw [hfile, hsplit]) hfront
      rw [List.append_nil] at hsplit
      exact ⟨front, _, by rw [hfile, hsplit], by rwa [hsplit] at hne, hfront⟩

/-- The curve of an object is the pairs in front of the first item that is none. -/
theorem parsePointXy_fileItems (root : CJson) :
    (parsePointXy root "defaultPoints" : List (PointXy Single)) =
      (((fileItems (some root)).getD []).takeWhile isPair).map pairPoint := by
  have hfile : fileItems (some root) =
      validJsonArray (root.getObjectItemCaseSensitive "defaultPoints") := rfl
  rw [parsePointXy, hfile]
  cases validJsonArray (root.getObjectItemCaseSensitive "defaultPoints") with
  | none => rfl
  | some items => exact pointsFrom_eq items

theorem parsePointXy_of_readPoints {root : CJson} {items : List CJson}
    {points : List (PointXy Single)}
    (hitems : fileItems (some root) = some items) (hread : readPoints items = some points) :
    parsePointXy root "defaultPoints" = points := by
  have hfile : validJsonArray (root.getObjectItemCaseSensitive "defaultPoints") = some items :=
    hitems
  rw [parsePointXy, hfile]
  exact pointsFrom_of_readPoints hread

def AlwaysAllOrNothing : Prop :=
  ∀ cJsonParse fileContent, AllOrNothing (cJsonParse fileContent)
    (calculationConfig cJsonParse fileContent).defaultPoints

/-- A text that is not an object leaves the built-in curve; an object replaces it by the pairs in
front of the first item that is none, with -1 for what is not a number, and by nothing when there
is no array. That is all or nothing exactly for well-formed documents. -/
theorem curve_all_or_nothing_iff (cJsonParse : String → Option CJson) (fileContent : String) :
    ((∀ root, cJsonParse fileContent = some root → root.isObject = false) →
        (calculationConfig cJsonParse fileContent).defaultPoints = builtInPoints) ∧
      (∀ root, cJsonParse fileContent = some root → root.isObject = true →
        (calculationConfig cJsonParse fileContent).defaultPoints =
          (((fileItems (some root)).getD []).takeWhile isPair).map pairPoint) ∧
      (AllOrNothing (cJsonParse fileContent)
          (calculationConfig cJsonParse fileContent).defaultPoints ↔
        WellFormed (cJsonParse fileContent)) := by
  rw [calculationConfig_points]
  cases cJsonParse fileContent with
  | none =>
    refine ⟨fun _ => rfl, ?_, iff_of_true ?_ ?_⟩
    · intro root hroot
      cases hroot
    · exact allOrNothing_builtIn rfl
    · intro root hroot
      cases hroot
  | some root =>
    cases hobject : root.isObject with
    | false =>
      dsimp only
      rw [hobject]
      refine ⟨fun _ => rfl, ?_, iff_of_true ?_ ?_⟩
      · rintro _ ⟨⟩ hyes
        exact absurd (hobject.symm.trans hyes) (by simp)
      · exact allOrNothing_builtIn (fileItems_of_not_object hobject)
      · rintro _ ⟨⟩ hyes
        exact absurd (hobject.symm.trans hyes) (by simp)
    | true =>
      dsimp only
      rw [if_pos hobject]
      refine ⟨?_, ?_, ?_, ?_⟩
      · intro hno
        exact absurd (hobject.symm.trans (hno root rfl)) (by simp)
      · rintro _ ⟨⟩ _
        exact parsePointXy_fileItems root
      · rintro hall _ ⟨⟩ _
        exact hall.wellFormed
      · intro hwell
        obtain ⟨items, points, hitems, hne, hread⟩ := hwell root rfl hobject
        rw [parsePointXy_of_readPoints hitems hread]
        exact allOrNothing_whole hitems hne hread

def brokenText : String := "\x7b\"defaultPoints\":[[0,5],[100]]\x7d"

def brokenDocument : CJson :=
  .object [("defaultPoints", .array [.array [.number 0, .number 5], .array [.number 100]])]

/-- The curve is its first point alone. -/
theorem broken_point_truncates : ¬ AlwaysAllOrNothing := by
  intro h
  have hall := h (fun fileContent => if fileContent = brokenText then some brokenDocument else none)
    brokenText
  rw [if_pos rfl] at hall
  have hback := hall.untruncated [.array [.number 0, .number 5]] [.array [.number 100]] rfl ?_
  · cases hback
  · rw [calculationConfig_points, if_pos rfl]
    rfl

end CalculationConfigParser

end DisplayPowerMgr
