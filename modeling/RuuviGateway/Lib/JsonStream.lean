import RuuviGateway.Lib.CJson
import RuuviGateway.Lib.Hex

/-!
# Generating JSON by calls

A generator is driven by calls that add a value under a name, or open or close an object or
an array.  A callback is the list of the calls that it makes, in order.  The document is what
the calls build: each open object or array is a frame with the members added so far.

Integers, strings and buffers come out as they are given.  How a `float` is printed is a
parameter.

The rule is `Adds`: a piece of a callback that closes what it opens adds members to whatever
is open around it and changes nothing else, so pieces compose.
-/

namespace JsonStream

open CJson

/-- The values that a call adds; `F` is the type of `float`. -/
inductive Value (F : Type) where
  | int32 (v : Int32)
  | uint32 (v : UInt32)
  | string (v : List Char)
  | hexBuf (bytes : List UInt8)
  | bool (v : Bool)
  | floatLimitedFixedPoint (v : F) (numDecimals : Nat)
  deriving DecidableEq

/-- A value and its name. -/
abbrev NamedValue (F : Type) := String × Value F

/-- The calls. -/
inductive Call (F : Type) where
  | add (field : NamedValue F)
  | startObject (name : String)
  | endObject
  | startArray (name : String)
  | endArray
  deriving DecidableEq

/-- An open object or array. -/
structure Frame where
  name : String
  isArray : Bool
  items : List (String × Json)

/-- The member that a closed frame is. -/
def Frame.close (f : Frame) : String × Json :=
  (f.name, if f.isArray then .array (f.items.map Prod.snd) else .object f.items)

/-- Add members. -/
def Frame.add (f : Frame) (items : List (String × Json)) : Frame :=
  { f with items := f.items ++ items }

@[simp] theorem Frame.add_nil (f : Frame) : f.add [] = f := by
  simp [Frame.add]

@[simp] theorem Frame.add_add (f : Frame) (a b : List (String × Json)) :
    (f.add a).add b = f.add (a ++ b) := by
  simp [Frame.add]

variable {F : Type} (printFloat : F → Nat → Json)

/-- A value as it is printed. -/
def Value.json : Value F → Json
  | .int32 v => .number (v.toInt : ℚ)
  | .uint32 v => .number ((v.toNat : Int) : ℚ)
  | .string v => .string v
  | .hexBuf bytes => .string (Hex.text true bytes)
  | .bool v => .bool v
  | .floatLimitedFixedPoint v numDecimals => printFloat v numDecimals

/-- The member that a field is. -/
def member (field : NamedValue F) : String × Json := (field.1, field.2.json printFloat)

/-- A call, with the innermost frame first.  The root is a frame that no call closes. -/
def step : List Frame → Call F → Option (List Frame)
  | f :: rest, .add field => some (f.add [member printFloat field] :: rest)
  | f :: rest, .startObject name => some (⟨name, false, []⟩ :: f :: rest)
  | f :: rest, .startArray name => some (⟨name, true, []⟩ :: f :: rest)
  | f :: g :: rest, .endObject => if f.isArray then none else some (g.add [f.close] :: rest)
  | f :: g :: rest, .endArray => if f.isArray then some (g.add [f.close] :: rest) else none
  | _, _ => none

/-- The calls of a callback. -/
def run (frames : List Frame) (calls : List (Call F)) : Option (List Frame) :=
  calls.foldlM (step printFloat) frames

/-- The document that a callback produces. -/
def document (calls : List (Call F)) : Option Json :=
  match run printFloat [⟨"", false, []⟩] calls with
  | some [root] => some (.object root.items)
  | _ => none

/-- The calls add these members and close what they open. -/
def Adds (calls : List (Call F)) (items : List (String × Json)) : Prop :=
  ∀ f rest, run printFloat (f :: rest) calls = some (f.add items :: rest)

variable {printFloat}

theorem adds_nil : Adds printFloat ([] : List (Call F)) [] := by
  intro f rest
  show some (f :: rest) = _
  rw [Frame.add_nil]

theorem Adds.append {a b : List (Call F)} {x y : List (String × Json)}
    (ha : Adds printFloat a x) (hb : Adds printFloat b y) :
    Adds printFloat (a ++ b) (x ++ y) := by
  intro f rest
  have h1 := ha f rest
  have h2 := hb (f.add x) rest
  rw [Frame.add_add] at h2
  unfold run at h1 h2 ⊢
  rw [List.foldlM_append, h1]
  exact h2

/-- Fields are added as they are. -/
theorem adds_fields (fields : List (NamedValue F)) :
    Adds printFloat (fields.map .add) (fields.map (member printFloat)) := by
  induction fields with
  | nil => exact adds_nil
  | cons field rest ih =>
    have hone : Adds printFloat [.add field] [member printFloat field] := fun f fs => rfl
    exact hone.append ih

@[simp] theorem names_map_member (fields : List (NamedValue F)) :
    names (fields.map (member printFloat)) = fields.map Prod.fst := by
  rw [names, List.map_map]
  rfl

/-- An object around calls. -/
theorem Adds.object {calls : List (Call F)} {items : List (String × Json)} (name : String)
    (h : Adds printFloat calls items) :
    Adds printFloat (.startObject name :: (calls ++ [.endObject])) [(name, .object items)] := by
  intro f rest
  have hrun := h ⟨name, false, []⟩ (f :: rest)
  unfold run at hrun ⊢
  show (calls ++ [Call.endObject]).foldlM (step printFloat) (⟨name, false, []⟩ :: f :: rest) = _
  rw [List.foldlM_append, hrun]
  rfl

/-- An array around calls. -/
theorem Adds.array {calls : List (Call F)} {items : List (String × Json)} (name : String)
    (h : Adds printFloat calls items) :
    Adds printFloat (.startArray name :: (calls ++ [.endArray]))
      [(name, .array (items.map Prod.snd))] := by
  intro f rest
  have hrun := h ⟨name, true, []⟩ (f :: rest)
  unfold run at hrun ⊢
  show (calls ++ [Call.endArray]).foldlM (step printFloat) (⟨name, true, []⟩ :: f :: rest) = _
  rw [List.foldlM_append, hrun]
  rfl

/-- A loop that makes one member in each round. -/
theorem adds_flatMap {α : Type} {calls : α → List (Call F)} {item : α → String × Json}
    {xs : List α} (h : ∀ x ∈ xs, Adds printFloat (calls x) [item x]) :
    Adds printFloat (xs.flatMap calls) (xs.map item) := by
  induction xs with
  | nil => exact adds_nil
  | cons x xs ih =>
    have hx := h x List.mem_cons_self
    have hxs := ih fun y hy => h y (List.mem_cons_of_mem x hy)
    exact hx.append hxs

/-- The document of calls that add members. -/
theorem Adds.document_eq {calls : List (Call F)} {items : List (String × Json)}
    (h : Adds printFloat calls items) : document printFloat calls = some (.object items) := by
  rw [document, h ⟨"", false, []⟩ []]
  rfl

/-! ## Optional members -/

/-- The members that are there. -/
def present (items : List (String × Option Json)) : List (String × Json) :=
  items.filterMap fun i => i.2.map fun v => (i.1, v)

theorem present_append (a b : List (String × Option Json)) :
    present (a ++ b) = present a ++ present b := by
  rw [present, List.filterMap_append]
  rfl

theorem names_present_subset (items : List (String × Option Json)) :
    names (present items) ⊆ items.map Prod.fst := by
  intro name h
  obtain ⟨m, hm, rfl⟩ := List.mem_map.mp h
  obtain ⟨i, hi, hv⟩ := List.mem_filterMap.mp hm
  obtain ⟨v, -, rfl⟩ := Option.map_eq_some_iff.mp hv
  exact List.mem_map_of_mem hi

/-- A lookup passes over members with other names. -/
theorem getObjectItem_append {a b : List (String × Json)} {name : String}
    (h : foldCase name ∉ (names b).map foldCase) :
    getObjectItem (.object (a ++ b)) name = getObjectItem (.object a) name := by
  have hb := getObjectItem_eq_none h
  simp only [getObjectItem, List.find?_append, Option.map_eq_none_iff] at hb ⊢
  rw [hb, Option.or_none]

theorem getObjectItem_append_of_none {a b : List (String × Json)} {name : String}
    (h : getObjectItem (.object a) name = none) :
    getObjectItem (.object (a ++ b)) name = getObjectItem (.object b) name := by
  simp only [getObjectItem, List.find?_append, Option.map_eq_none_iff] at h ⊢
  rw [h, Option.none_or]

theorem getObjectItem_cons_self (name : String) (v : Json) (items : List (String × Json)) :
    getObjectItem (.object ((name, v) :: items)) name = some v := by
  simp [getObjectItem]

/-- Where names are distinct, a lookup finds an optional member exactly if it is there. -/
theorem getObjectItem_present {items : List (String × Option Json)} {name : String}
    {v : Option Json} (hnodup : (items.map fun i => foldCase i.1).Nodup)
    (hmem : (name, v) ∈ items) : getObjectItem (.object (present items)) name = v := by
  induction items with
  | nil => exact absurd hmem List.not_mem_nil
  | cons i items ih =>
    obtain ⟨hne, hrest⟩ := List.nodup_cons.mp hnodup
    have hothers : foldCase i.1 ∉ (names (present items)).map foldCase := by
      intro h
      obtain ⟨other, hother, heq⟩ := List.mem_map.mp h
      obtain ⟨k, hk, rfl⟩ := List.mem_map.mp (names_present_subset items hother)
      exact hne (List.mem_map.mpr ⟨k, hk, heq⟩)
    rcases List.mem_cons.mp hmem with rfl | htail
    · cases v with
      | none => exact getObjectItem_eq_none hothers
      | some v => simp [present, getObjectItem]
    · have hother : foldCase i.1 ≠ foldCase name :=
        fun he => hne (List.mem_map.mpr ⟨_, htail, he.symm⟩)
      rw [← ih hrest htail]
      rcases i with ⟨n, _ | w⟩
      · rfl
      · simp only [present, List.filterMap_cons, Option.map_some, getObjectItem]
        rw [List.find?_cons_of_neg (by simpa using hother)]

end JsonStream
