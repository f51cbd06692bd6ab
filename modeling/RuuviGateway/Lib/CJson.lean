import Mathlib.Data.Rat.Defs
import Mathlib.Data.List.Nodup

/-!
# JSON trees of cJSON

A tree as `cJSON_Parse` leaves it: the members of an object are kept in their order, with
duplicates, and a number is its `valuedouble`.  `cJSON_GetObjectItem` takes the first member
whose name agrees up to the case of its letters.

The lemmas are about objects whose names are distinct in this sense: there a lookup finds
exactly the members.
-/

namespace CJson

/-- A JSON value. -/
inductive Json where
  | null
  | bool (b : Bool)
  | number (valuedouble : ℚ)
  | string (valuestring : List Char)
  | array (items : List Json)
  | object (items : List (String × Json))

mutual

/-- Trees are compared member by member. -/
def Json.decEq : (a b : Json) → Decidable (a = b)
  | .null, .null => isTrue rfl
  | .bool a, .bool b => decidable_of_iff (a = b) (by simp)
  | .number a, .number b => decidable_of_iff (a = b) (by simp)
  | .string a, .string b => decidable_of_iff (a = b) (by simp)
  | .array a, .array b =>
      match decEqItems a b with
      | isTrue h => isTrue (congrArg Json.array h)
      | isFalse h => isFalse fun he => h (Json.array.inj he)
  | .object a, .object b =>
      match decEqMembers a b with
      | isTrue h => isTrue (congrArg Json.object h)
      | isFalse h => isFalse fun he => h (Json.object.inj he)
  | .null, .bool _ => isFalse (by simp)
  | .null, .number _ => isFalse (by simp)
  | .null, .string _ => isFalse (by simp)
  | .null, .array _ => isFalse (by simp)
  | .null, .object _ => isFalse (by simp)
  | .bool _, .null => isFalse (by simp)
  | .bool _, .number _ => isFalse (by simp)
  | .bool _, .string _ => isFalse (by simp)
  | .bool _, .array _ => isFalse (by simp)
  | .bool _, .object _ => isFalse (by simp)
  | .number _, .null => isFalse (by simp)
  | .number _, .bool _ => isFalse (by simp)
  | .number _, .string _ => isFalse (by simp)
  | .number _, .array _ => isFalse (by simp)
  | .number _, .object _ => isFalse (by simp)
  | .string _, .null => isFalse (by simp)
  | .string _, .bool _ => isFalse (by simp)
  | .string _, .number _ => isFalse (by simp)
  | .string _, .array _ => isFalse (by simp)
  | .string _, .object _ => isFalse (by simp)
  | .array _, .null => isFalse (by simp)
  | .array _, .bool _ => isFalse (by simp)
  | .array _, .number _ => isFalse (by simp)
  | .array _, .string _ => isFalse (by simp)
  | .array _, .object _ => isFalse (by simp)
  | .object _, .null => isFalse (by simp)
  | .object _, .bool _ => isFalse (by simp)
  | .object _, .number _ => isFalse (by simp)
  | .object _, .string _ => isFalse (by simp)
  | .object _, .array _ => isFalse (by simp)

def decEqItems : (a b : List Json) → Decidable (a = b)
  | [], [] => isTrue rfl
  | [], _ :: _ => isFalse (by simp)
  | _ :: _, [] => isFalse (by simp)
  | a :: as, b :: bs =>
      match Json.decEq a b, decEqItems as bs with
      | isTrue h, isTrue h' => isTrue (by rw [h, h'])
      | isFalse h, _ => isFalse fun he => h (List.cons.inj he).1
      | _, isFalse h => isFalse fun he => h (List.cons.inj he).2

def decEqMembers : (a b : List (String × Json)) → Decidable (a = b)
  | [], [] => isTrue rfl
  | [], _ :: _ => isFalse (by simp)
  | _ :: _, [] => isFalse (by simp)
  | (n, a) :: as, (m, b) :: bs =>
      match decEq n m, Json.decEq a b, decEqMembers as bs with
      | isTrue h, isTrue h', isTrue h'' => isTrue (by rw [h, h', h''])
      | isFalse h, _, _ => isFalse fun he => h (Prod.mk.inj (List.cons.inj he).1).1
      | _, isFalse h, _ => isFalse fun he => h (Prod.mk.inj (List.cons.inj he).1).2
      | _, _, isFalse h => isFalse fun he => h (List.cons.inj he).2

end

instance : DecidableEq Json := Json.decEq

/-- `case_insensitive_strcmp`: what it compares. -/
def foldCase (name : String) : List Char := name.toList.map Char.toLower

/-- `cJSON_GetObjectItem`. -/
def getObjectItem (j : Json) (name : String) : Option Json :=
  match j with
  | .object items => (items.find? fun i => foldCase i.1 == foldCase name).map Prod.snd
  | _ => none

/-- `cJSON_GetStringValue`. -/
def getStringValue : Json → Option (List Char)
  | .string s => some s
  | _ => none

/-- `valueint`: the number without its fraction, as far as an `int` reaches. -/
def valueint (q : ℚ) : Int :=
  if 2147483647 ≤ q then 2147483647
  else if q ≤ -2147483648 then -2147483648
  else q.num.tdiv q.den

/-- `cJSON_GetArraySize` and `cJSON_GetArrayItem`: the elements, which for an object are the
values of its members. -/
def arrayItems : Json → List Json
  | .array items => items
  | .object items => items.map Prod.snd
  | _ => []

/-! ## Numbers -/

theorem valueint_intCast {n : Int} (hlo : -2147483648 ≤ n) (hhi : n ≤ 2147483647) :
    valueint (n : ℚ) = n := by
  unfold valueint
  by_cases htop : n = 2147483647
  · subst htop
    rfl
  · have h1 : ¬ (2147483647 : ℚ) ≤ (n : ℚ) := by
      have : ((2147483647 : Int) : ℚ) = 2147483647 := rfl
      rw [← this, Rat.intCast_le_intCast]
      omega
    rw [if_neg h1]
    by_cases hbot : n = -2147483648
    · subst hbot
      rfl
    · have h2 : ¬ (n : ℚ) ≤ (-2147483648 : ℚ) := by
        have : ((-2147483648 : Int) : ℚ) = -2147483648 := rfl
        rw [← this, Rat.intCast_le_intCast]
        omega
      rw [if_neg h2]
      simp

/-- What is too large for an `int` is the largest one. -/
theorem valueint_of_le {n : Int} (h : 2147483647 ≤ n) : valueint (n : ℚ) = 2147483647 := by
  have h1 : (2147483647 : ℚ) ≤ (n : ℚ) := by
    have : ((2147483647 : Int) : ℚ) = 2147483647 := rfl
    rw [← this, Rat.intCast_le_intCast]
    exact h
  rw [valueint, if_pos h1]

/-! ## Members -/

/-- The members of an object, as lookups see them: `j` has the members `items`. -/
def Has (j : Json) (items : List (String × Json)) : Prop :=
  ∀ i ∈ items, getObjectItem j i.1 = some i.2

theorem Has.get {j : Json} {items : List (String × Json)} (h : Has j items) {name : String}
    {v : Json} (hmem : (name, v) ∈ items) : getObjectItem j name = some v :=
  h _ hmem

theorem Has.right {j : Json} {a b : List (String × Json)} (h : Has j (a ++ b)) : Has j b :=
  fun i hi => h i (List.mem_append_right a hi)

theorem has_append {j : Json} {a b : List (String × Json)} :
    Has j (a ++ b) ↔ Has j a ∧ Has j b :=
  List.forall_mem_append

theorem has_cons {j : Json} {name : String} {v : Json} {items : List (String × Json)} :
    Has j ((name, v) :: items) ↔ getObjectItem j name = some v ∧ Has j items :=
  List.forall_mem_cons

theorem has_nil (j : Json) : Has j [] := fun _ h => absurd h List.not_mem_nil

/-- The names of the members. -/
def names (items : List (String × Json)) : List String := items.map Prod.fst

@[simp] theorem names_append (a b : List (String × Json)) :
    names (a ++ b) = names a ++ names b :=
  List.map_append

@[simp] theorem names_cons (name : String) (v : Json) (items : List (String × Json)) :
    names ((name, v) :: items) = name :: names items := rfl

@[simp] theorem names_nil : names [] = [] := rfl

/-- An object whose names are distinct has its members. -/
theorem has_object {items : List (String × Json)} (h : ((names items).map foldCase).Nodup) :
    Has (.object items) items := by
  intro i hi
  induction items with
  | nil => exact absurd hi (by simp)
  | cons k items ih =>
    rw [names, List.map_cons, List.map_cons, List.nodup_cons] at h
    by_cases hk : foldCase k.1 = foldCase i.1
    · have hik : i = k := by
        rcases List.mem_cons.mp hi with heq | htail
        · exact heq
        · exact absurd (List.mem_map_of_mem (List.mem_map_of_mem htail)) (hk ▸ h.1)
      subst hik
      simp [getObjectItem]
    · have htail : i ∈ items := by
        rcases List.mem_cons.mp hi with heq | htail
        · exact absurd (congrArg (fun j => foldCase j.1) heq).symm hk
        · exact htail
      have hrec := ih h.2 htail
      simp only [getObjectItem] at hrec ⊢
      rw [List.find?_cons_of_neg (by simpa using hk)]
      exact hrec

/-- A name that no member has is not found. -/
theorem getObjectItem_eq_none {items : List (String × Json)} {name : String}
    (h : foldCase name ∉ (names items).map foldCase) :
    getObjectItem (.object items) name = none := by
  rw [getObjectItem, Option.map_eq_none_iff, List.find?_eq_none]
  intro i hi heq
  have hfold : foldCase i.1 = foldCase name := by simpa using heq
  exact h (hfold ▸ List.mem_map_of_mem (List.mem_map_of_mem hi))

end CJson
