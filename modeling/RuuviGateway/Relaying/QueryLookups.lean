import Mathlib.Data.List.Find
import RuuviGateway.AdvTable.HistoryPolling
import RuuviGateway.Relaying.ValidateUrl
import RuuviGateway.Url.Params

/-!
# The lookups of the URL check

The handler of `GET /validate_url` looks up some of its parameters with
`http_server_get_from_params`, and the others in its own way: it takes the first place where
`name=` stands, be it the end of a longer name or part of a value, and compares the value with
`strncmp` over the length of the value, so every beginning of the expected text is taken for it.

For a query string `name=value(&name=value)*` both ways are computed here from the list of its
parameters, and it is said for which lists they agree.
-/

namespace RuuviGateway
namespace Relaying

open AdvTable (findParam httpServerGetFromParams)

/-! ## Query strings -/

/-- A parameter; a value may have `=` in it. -/
structure QueryParam where
  name : List Char
  value : List Char
  name_ok : ∀ c ∈ name, c ≠ '=' ∧ c ≠ '&'
  value_ok : '&' ∉ value

/-- `name=value`. -/
def QueryParam.text (p : QueryParam) : List Char := p.name ++ '=' :: p.value

/-- The parameters, with `&` between them. -/
def queryString (p : QueryParam) (ps : List QueryParam) : List Char :=
  p.text ++ ps.flatMap fun q => '&' :: q.text

/-- The value of the first parameter of this name. -/
def exactValue (name : List Char) (ps : List QueryParam) : Option (List Char) :=
  (ps.find? fun p => p.name = name).map (·.value)

/-- What stands behind the first `name=` in a parameter. -/
def mention (name : List Char) (p : QueryParam) : Option (List Char) :=
  (strstr p.text (name ++ ['='])).map fun rest => rest.drop (name ++ ['=']).length

/-- The first parameter that `name=` stands in. -/
def firstMention (name : List Char) (ps : List QueryParam) : Option QueryParam :=
  ps.find? fun p => (mention name p).isSome

theorem QueryParam.ampersand_notMem_text (p : QueryParam) : '&' ∉ p.text := by
  intro h
  rcases List.mem_append.mp h with h | h
  · exact (p.name_ok _ h).2 rfl
  · rcases List.mem_cons.mp h with h | h
    · exact absurd h (by decide)
    · exact p.value_ok h

/-! ## Names -/

theorem isName_of_all {n : List Char} (h : n.all (fun c => c != '=' && c != '&') = true) :
    ∀ c ∈ n, c ≠ '=' ∧ c ≠ '&' := by
  simpa using h

theorem takeWhile_name {n : List Char} (hn : ∀ c ∈ n, c ≠ '=' ∧ c ≠ '&') (t : List Char) :
    (n ++ '=' :: t).takeWhile (· != '=') = n := by
  rw [List.takeWhile_append_of_pos (by simpa using fun c hc => (hn c hc).1)]
  simp

/-- The key stands at the start of a parameter if and only if it has the name. -/
theorem key_isPrefix_iff {name n : List Char} (hname : ∀ c ∈ name, c ≠ '=' ∧ c ≠ '&')
    (hn : ∀ c ∈ n, c ≠ '=' ∧ c ≠ '&') (t : List Char) :
    name ++ ['='] <+: n ++ '=' :: t ↔ n = name := by
  constructor
  · rintro ⟨u, hu⟩
    rw [List.append_assoc, List.singleton_append] at hu
    rw [← takeWhile_name hn t, ← hu, takeWhile_name hname]
  · rintro rfl
    exact ⟨t, by simp⟩

section exact

variable {key : List Char}

theorem findParam_cons (prev : Option Char) (c : Char) (s : List Char) :
    findParam key prev (c :: s) =
      if key <+: c :: s ∧ (prev = none ∨ prev = some '&') then some ((c :: s).drop key.length)
      else findParam key (some c) s := by
  rw [findParam]
  refine if_congr ?_ rfl rfl
  simp [List.isPrefixOf_iff_prefix]

/-- No parameter begins inside a text without `&`. -/
theorem findParam_skip {w : List Char} (hw : '&' ∉ w) {c : Char} (hc : c ≠ '&') :
    findParam key (some c) w = none ∧
      ∀ u, findParam key (some c) (w ++ '&' :: u) = findParam key (some '&') u := by
  have hprev : ∀ d : Char, d ≠ '&' → ¬ (some d = none ∨ some d = some '&') := by
    intro d hd
    simp [hd]
  induction w generalizing c with
  | nil =>
    refine ⟨rfl, fun u => ?_⟩
    rw [List.nil_append, findParam_cons, if_neg fun h => hprev c hc h.2]
  | cons d w ih =>
    have hd : d ≠ '&' := fun h => hw (h ▸ List.mem_cons_self)
    obtain ⟨hnone, happend⟩ := ih (fun h => hw (List.mem_cons_of_mem d h)) hd
    refine ⟨?_, fun u => ?_⟩
    · rw [findParam_cons, if_neg fun h => hprev c hc h.2, hnone]
    · rw [List.cons_append, findParam_cons, if_neg fun h => hprev c hc h.2, happend]

/-- A text without `&`, before the end or `&`. -/
theorem takeWhile_ampersand {v : List Char} (hv : '&' ∉ v) (ps : List QueryParam) :
    (v ++ ps.flatMap fun q => '&' :: q.text).takeWhile (fun c => c != '&') = v := by
  refine Strtoul.takeWhile_append_of_head? ?_ fun c hc => ?_
  · intro c hc
    rw [bne_iff_ne]
    rintro rfl
    exact hv hc
  · cases ps with
    | nil => exact absurd hc (by simp)
    | cons q ps =>
      obtain rfl : '&' = c := Option.some.inj hc
      rfl

/-- At the start of a parameter of the name its value is found. -/
theorem findParam_of_name {p : QueryParam} {prev : Option Char}
    (hprev : prev = none ∨ prev = some '&') (t : List Char) :
    findParam (p.name ++ ['=']) prev (p.text ++ t) = some (p.value ++ t) := by
  have htext : p.text ++ t = (p.name ++ ['=']) ++ (p.value ++ t) := by
    simp [QueryParam.text]
  obtain ⟨c, w, hw⟩ := List.exists_cons_of_ne_nil (l := p.text ++ t) (by simp [QueryParam.text])
  rw [hw, findParam_cons, ← hw, htext, if_pos ⟨List.prefix_append _ _, hprev⟩, List.drop_left]

/-- A parameter of another name is passed over. -/
theorem findParam_of_name_ne {name : List Char} (hname : ∀ c ∈ name, c ≠ '=' ∧ c ≠ '&')
    {p : QueryParam} (hp : p.name ≠ name) (prev : Option Char) :
    findParam (name ++ ['=']) prev p.text = none ∧
      ∀ u, findParam (name ++ ['=']) prev (p.text ++ '&' :: u) =
        findParam (name ++ ['=']) (some '&') u := by
  have hamp := p.ampersand_notMem_text
  have hno : ∀ t, ¬ name ++ ['='] <+: p.text ++ t := by
    intro t
    rw [QueryParam.text, List.append_assoc, List.cons_append]
    exact mt (key_isPrefix_iff hname p.name_ok _).mp hp
  have hnil := hno []
  rw [List.append_nil] at hnil
  obtain ⟨c, w, hw⟩ := List.exists_cons_of_ne_nil (l := p.text) (by simp [QueryParam.text])
  rw [hw] at hamp hnil hno ⊢
  have hc : c ≠ '&' := fun h => hamp (h ▸ List.mem_cons_self)
  obtain ⟨hnone, happend⟩ : findParam (name ++ ['=']) (some c) w = none ∧
      ∀ u, findParam (name ++ ['=']) (some c) (w ++ '&' :: u) =
        findParam (name ++ ['=']) (some '&') u :=
    findParam_skip (fun h => hamp (List.mem_cons_of_mem c h)) hc
  refine ⟨?_, fun u => ?_⟩
  · rw [findParam_cons, if_neg fun h => hnil h.1, hnone]
  · have hu := hno ('&' :: u)
    rw [List.cons_append] at hu ⊢
    rw [findParam_cons, if_neg fun h => hu h.1, happend]

/-- **`http_server_get_from_params` returns the value of the first parameter of the name.** -/
theorem httpServerGetFromParams_queryString {name : List Char}
    (hname : ∀ c ∈ name, c ≠ '=' ∧ c ≠ '&') (p : QueryParam) (ps : List QueryParam) :
    httpServerGetFromParams (queryString p ps) (name ++ ['=']) = exactValue name (p :: ps) := by
  suffices h : ∀ prev, prev = none ∨ prev = some '&' →
      (findParam (name ++ ['=']) prev (queryString p ps)).map
        (fun value => value.takeWhile fun c => c != '&') = exactValue name (p :: ps) from
    h none (.inl rfl)
  -- the first parameter has the name
  have hfound : ∀ (p : QueryParam) (ps : List QueryParam) (prev : Option Char),
      prev = none ∨ prev = some '&' → p.name = name →
      (findParam (name ++ ['=']) prev (queryString p ps)).map
        (fun value => value.takeWhile fun c => c != '&') = exactValue name (p :: ps) := by
    rintro p ps prev hprev rfl
    rw [queryString, findParam_of_name hprev, Option.map_some, takeWhile_ampersand p.value_ok,
      exactValue]
    simp
  induction ps generalizing p with
  | nil =>
    intro prev hprev
    by_cases hp : p.name = name
    · exact hfound p [] prev hprev hp
    · rw [queryString, List.flatMap_nil, List.append_nil,
        (findParam_of_name_ne hname hp prev).1, exactValue]
      simp [hp]
  | cons q ps ih =>
    intro prev hprev
    by_cases hp : p.name = name
    · exact hfound p (q :: ps) prev hprev hp
    · have htail : exactValue name (p :: q :: ps) = exactValue name (q :: ps) := by
        rw [exactValue, List.find?_cons_of_neg (by simpa using hp), exactValue]
      rw [htail, ← ih q (some '&') (.inr rfl), queryString, List.flatMap_cons, List.cons_append,
        (findParam_of_name_ne hname hp prev).2]
      rfl

/-- A parameter begins behind `pre` if it ends with `&`, or is empty. -/
theorem begins_length_iff (pre t : List Char) : Url.Begins '&' (pre ++ t) pre.length ↔
    pre.getLast? = none ∨ pre.getLast? = some '&' := by
  rw [Url.Begins]
  cases pre using List.reverseRecOn with
  | nil => simp
  | append_singleton pre c => simp

/-- The scan from behind `pre` on. -/
theorem findParam_eq (hkey : key ≠ []) (pre t : List Char) :
    (∀ j, Url.FirstKeyAt '&' (pre ++ t) key j → pre.length ≤ j →
        findParam key pre.getLast? t = some ((pre ++ t).drop (j + key.length))) ∧
      ((∀ j, ¬ Url.KeyAt '&' (pre ++ t) key j) → findParam key pre.getLast? t = none) := by
  induction t generalizing pre with
  | nil =>
    refine ⟨fun j hj hle => ?_, fun _ => rfl⟩
    have hlt := (Url.lt_length_of_isPrefix hkey hj.1.2).2
    rw [List.append_nil] at hlt
    omega
  | cons c t ih =>
    have hat : Url.KeyAt '&' (pre ++ c :: t) key pre.length ↔
        key <+: c :: t ∧ (pre.getLast? = none ∨ pre.getLast? = some '&') := by
      rw [Url.KeyAt, begins_length_iff, List.drop_left, and_comm]
    obtain ⟨hsome, hnone⟩ := ih (pre ++ [c])
    rw [List.append_assoc, List.singleton_append, List.getLast?_concat] at hsome hnone
    rw [findParam_cons]
    constructor
    · intro j hj hle
      by_cases hhere : Url.KeyAt '&' (pre ++ c :: t) key pre.length
      · obtain rfl : j = pre.length := by
          by_contra hne
          exact hj.2 pre.length (by omega) hhere
        rw [if_pos (hat.mp hhere), ← List.drop_drop, List.drop_left]
      · have hne : j ≠ pre.length := fun h => hhere (h ▸ hj.1)
        rw [if_neg (mt hat.mpr hhere)]
        exact hsome j hj (by rw [List.length_append, List.length_singleton]; omega)
    · intro hall
      rw [if_neg (mt hat.mpr (hall pre.length))]
      exact hnone hall

/-- **The scan over characters is the loop over `strstr`**, which comes to its end and does not
read behind the parameters. -/
theorem httpServerGetFromParams_eq (hkey : key ≠ []) (params : List Char) :
    Url.httpServerGetFromParams '&' true (params.length + 1) params key =
      some (httpServerGetFromParams params key) := by
  obtain ⟨hsome, hnone⟩ := findParam_eq hkey [] params
  rcases Url.httpServerGetFromParams_spec '&' params hkey true with
    ⟨i, hfirst, hget⟩ | ⟨hno, hget⟩
  · rw [hget, httpServerGetFromParams]
    rw [List.getLast?_nil] at hsome
    rw [hsome i hfirst (Nat.zero_le i)]
    simp only [if_true, Url.valueAt, List.nil_append, Option.map_some]
    refine congrArg (fun p => some (some (List.takeWhile p _))) (funext fun c => ?_)
    exact decide_not.trans rfl
  · rw [hget, httpServerGetFromParams]
    rw [List.getLast?_nil] at hnone
    rw [hnone hno]
    rfl

end exact

/-! ## The first place of a key -/

section places

variable {pat : List Char}

/-- A key without `&` does not reach over `&`. -/
theorem isPrefix_append_iff (hamp : '&' ∉ pat) (w u : List Char) :
    pat <+: w ++ '&' :: u ↔ pat <+: w := by
  constructor
  · intro h
    rcases List.prefix_or_prefix_of_prefix h (List.prefix_append w ('&' :: u)) with h' | ⟨v, rfl⟩
    · exact h'
    · rw [List.prefix_append_right_inj] at h
      cases v with
      | nil => simp
      | cons d v =>
        obtain ⟨rfl, -⟩ := List.cons_prefix_cons.mp h
        simp at hamp
  · exact fun h => h.trans (List.prefix_append w _)

/-- The first place is in the first parameter that has one. -/
theorem strstr_append (hpat : pat ≠ []) (hamp : '&' ∉ pat) (w u : List Char) :
    strstr (w ++ '&' :: u) pat = ((strstr w pat).map (· ++ '&' :: u)).or (strstr u pat) := by
  induction w with
  | nil =>
    have hno : ¬ pat <+: '&' :: u := fun h => by
      have := (isPrefix_append_iff hamp [] u).mp h
      exact hpat (List.prefix_nil.mp this)
    rw [List.nil_append, strstr_cons, if_neg hno, strstr_nil hpat]
    rfl
  | cons c w ih =>
    rw [List.cons_append, strstr_cons, strstr_cons, ← List.cons_append]
    by_cases h : pat <+: c :: w
    · rw [if_pos ((isPrefix_append_iff hamp _ u).mpr h), if_pos h]
      rfl
    · rw [if_neg (mt (isPrefix_append_iff hamp _ u).mp h), if_neg h, ih]

end places

section raw

variable {name : List Char}

theorem ampersand_notMem_key (hname : ∀ c ∈ name, c ≠ '=' ∧ c ≠ '&') : '&' ∉ name ++ ['='] := by
  intro h
  rcases List.mem_append.mp h with h | h
  · exact (hname _ h).2 rfl
  · exact absurd h (by decide)

/-- What is read behind the key, in the parameter that it stands in. -/
theorem takeWhile_drop_of_strstr {p : QueryParam} {rest : List Char}
    (h : strstr p.text (name ++ ['=']) = some rest) (ps : List QueryParam) :
    ((rest ++ ps.flatMap fun q => '&' :: q.text).drop (name ++ ['=']).length).takeWhile
      (fun c => c != '&') = rest.drop (name ++ ['=']).length := by
  obtain ⟨⟨v, rfl⟩, hsuffix⟩ := strstr_spec (by simp) h
  have hv : '&' ∉ v := fun hmem =>
    p.ampersand_notMem_text (hsuffix.mem (List.mem_append_right _ hmem))
  rw [List.append_assoc, List.drop_left, List.drop_left, takeWhile_ampersand hv]

/-- **The lookups of the handler read what stands behind the first `name=`.** -/
theorem rawValue_queryString (hname : ∀ c ∈ name, c ≠ '=' ∧ c ≠ '&') {pre : String}
    (hpre : pre.toList = name ++ ['=']) (p : QueryParam) (ps : List QueryParam) :
    rawValue (queryString p ps) pre = (firstMention name (p :: ps)).bind (mention name) := by
  have hamp := ampersand_notMem_key hname
  have hne : name ++ ['='] ≠ [] := by simp
  rw [rawValue, hpre]
  induction ps generalizing p with
  | nil =>
    rw [queryString, List.flatMap_nil, List.append_nil, firstMention, List.find?_singleton]
    cases hfind : strstr p.text (name ++ ['=']) with
    | none => simp [mention, hfind]
    | some rest =>
      have hread := takeWhile_drop_of_strstr hfind []
      rw [List.flatMap_nil, List.append_nil] at hread
      simp only [mention, hfind, Option.map_some, Option.isSome_some, if_true, Option.bind_some,
        hread]
  | cons q ps ih =>
    have hsplit : queryString p (q :: ps) = p.text ++ '&' :: queryString q ps := rfl
    rw [hsplit, strstr_append hne hamp, firstMention, List.find?_cons]
    cases hfind : strstr p.text (name ++ ['=']) with
    | none =>
      have hmention : (mention name p).isSome = false := by simp [mention, hfind]
      rw [hmention, Option.map_none, Option.none_or]
      exact ih q
    | some rest =>
      have hread := takeWhile_drop_of_strstr hfind (q :: ps)
      rw [List.flatMap_cons, List.cons_append] at hread
      have hmention : mention name p = some (rest.drop (name ++ ['=']).length) := by
        simp only [mention, hfind, Option.map_some]
      rw [Option.map_some, Option.some_or, Option.map_some, hmention]
      simp only [Option.isSome_some, Option.bind_some, hmention]
      exact congrArg some hread

/-- In a parameter of the name its value stands behind the first `name=`. -/
theorem mention_of_name (p : QueryParam) : mention p.name p = some p.value := by
  have htext : p.text = (p.name ++ ['=']) ++ p.value := by simp [QueryParam.text]
  have hfind : strstr p.text (p.name ++ ['=']) = some p.text := by
    obtain ⟨c, w, hw⟩ := List.exists_cons_of_ne_nil (l := p.text) (by simp [QueryParam.text])
    have hpre : p.name ++ ['='] <+: c :: w := by
      rw [← hw, htext]
      exact List.prefix_append _ _
    rw [hw, strstr_cons, if_pos hpre]
  rw [mention, hfind, Option.map_some, htext, List.drop_left]

variable {ps : List QueryParam} {p : QueryParam}

/-- A parameter of the name that is the first one with `name=` in it is the first one of the
name. -/
theorem exactValue_of_firstMention (h : firstMention name ps = some p) (hp : p.name = name) :
    exactValue name ps = some p.value := by
  obtain ⟨-, before, after, rfl, hbefore⟩ := List.find?_eq_some_iff_append.mp h
  have hskip : ∀ q ∈ before, ¬ decide (q.name = name) = true := by
    intro q hq hqname
    obtain rfl := of_decide_eq_true hqname
    have hno := hbefore q hq
    rw [mention_of_name] at hno
    exact absurd hno (by simp)
  rw [exactValue, List.find?_append, List.find?_eq_none.mpr hskip, Option.none_or]
  simp [hp]

theorem exactValue_of_firstMention_eq_none (h : firstMention name ps = none) :
    exactValue name ps = none := by
  have hskip : ∀ q ∈ ps, ¬ decide (q.name = name) = true := by
    intro q hq hqname
    obtain rfl := of_decide_eq_true hqname
    have hno := List.find?_eq_none.mp h q hq
    rw [mention_of_name] at hno
    exact hno rfl
  rw [exactValue, List.find?_eq_none.mpr hskip]
  rfl

end raw

/-! ## Choices by a value -/

section choice

variable {β : Type} (texts : List (List Char × β)) (default : β)

/-- The choice for the first text that the value is a beginning of. -/
def startsChoice (v : List Char) : β :=
  ((texts.find? fun t => v.isPrefixOf t.1).map (·.2)).getD default

/-- The choice for the text that is the value. -/
def exactChoice (v : Option (List Char)) : β :=
  ((v.bind fun v => texts.find? fun t => t.1 = v).map (·.2)).getD default

/-- The choice of a lookup of the handler. -/
def rawChoice (params : List Char) (pre : String) : β :=
  match rawValue params pre with
  | none => default
  | some v => startsChoice texts default v

/-- No text is a beginning of another one, and no choice is the default. -/
structure Separate : Prop where
  eq_of_isPrefix : ∀ t ∈ texts, ∀ u ∈ texts, t.1 <+: u.1 → t = u
  ne_default : ∀ t ∈ texts, t.2 ≠ default

/-- In the first parameter with `name=` in it: if it has the name, its value is not a proper
beginning of a text; and if `name=` is the end of a longer name or part of a value, what stands
behind it makes the same choice as the first parameter of the name. -/
def Unambiguous (name : List Char) (ps : List QueryParam) : Prop :=
  ∀ p v, firstMention name ps = some p → mention name p = some v →
    (p.name = name → ∀ t ∈ texts, v <+: t.1 → v = t.1) ∧
      (p.name ≠ name → startsChoice texts default v =
        exactChoice texts default (exactValue name ps))

variable {texts default}

theorem startsChoice_nil (v : List Char) : startsChoice [] default v = default := rfl

theorem startsChoice_cons (t : List Char × β) (texts : List (List Char × β)) (v : List Char) :
    startsChoice (t :: texts) default v =
      if v.isPrefixOf t.1 then t.2 else startsChoice texts default v := by
  rw [startsChoice, List.find?_cons]
  cases v.isPrefixOf t.1 with
  | false => rfl
  | true => rfl

theorem startsChoice_eq_exactChoice_iff (h : Separate texts default) (v : List Char) :
    startsChoice texts default v = exactChoice texts default (some v) ↔
      ∀ t ∈ texts, v <+: t.1 → v = t.1 := by
  rw [startsChoice, exactChoice, Option.bind_some]
  constructor
  · intro heq t ht hpre
    cases hstarts : texts.find? fun t => v.isPrefixOf t.1 with
    | none =>
      have hno := List.find?_eq_none.mp hstarts t ht
      exact absurd (List.isPrefixOf_iff_prefix.mpr hpre) hno
    | some u =>
      have hu := List.mem_of_find?_eq_some hstarts
      cases hexact : texts.find? fun t => t.1 = v with
      | none =>
        rw [hstarts, hexact] at heq
        exact absurd heq (h.ne_default u hu)
      | some w =>
        have hw := List.mem_of_find?_eq_some hexact
        have hwv : w.1 = v := by simpa using List.find?_some hexact
        rw [← h.eq_of_isPrefix w hw t ht (hwv ▸ hpre), hwv]
  · intro hall
    have hsame : ∀ t ∈ texts, v.isPrefixOf t.1 = decide (t.1 = v) := by
      intro t ht
      rw [Bool.eq_iff_iff, List.isPrefixOf_iff_prefix, decide_eq_true_eq]
      exact ⟨fun hpre => (hall t ht hpre).symm, fun heq => heq ▸ List.prefix_rfl⟩
    rw [List.find?_congr hsame]

/-- **Which query strings a lookup is right for.** -/
theorem rawChoice_eq_iff (h : Separate texts default) {name : List Char}
    (hname : ∀ c ∈ name, c ≠ '=' ∧ c ≠ '&') {pre : String} (hpre : pre.toList = name ++ ['='])
    (p : QueryParam) (ps : List QueryParam) :
    rawChoice texts default (queryString p ps) pre =
        exactChoice texts default (exactValue name (p :: ps)) ↔
      Unambiguous texts default name (p :: ps) := by
  rw [rawChoice, rawValue_queryString hname hpre]
  cases hfirst : firstMention name (p :: ps) with
  | none =>
    rw [exactValue_of_firstMention_eq_none hfirst]
    refine iff_of_true rfl fun q v hq => ?_
    rw [hfirst] at hq
    exact absurd hq (by simp)
  | some q =>
    have hsome := List.find?_some (p := fun q => (mention name q).isSome) hfirst
    obtain ⟨v, hv⟩ := Option.isSome_iff_exists.mp hsome
    rw [Option.bind_some, hv]
    have hunambiguous : Unambiguous texts default name (p :: ps) ↔
        (q.name = name → ∀ t ∈ texts, v <+: t.1 → v = t.1) ∧
          (q.name ≠ name → startsChoice texts default v =
            exactChoice texts default (exactValue name (p :: ps))) := by
      constructor
      · exact fun hall => hall q v hfirst hv
      · intro hq q' v' hq' hv'
        obtain rfl := Option.some.inj (hfirst.symm.trans hq')
        obtain rfl := Option.some.inj (hv.symm.trans hv')
        exact hq
    rw [hunambiguous]
    by_cases hqname : q.name = name
    · subst hqname
      obtain rfl := Option.some.inj ((mention_of_name q).symm.trans hv)
      rw [exactValue_of_firstMention hfirst rfl, startsChoice_eq_exactChoice_iff h]
      exact ⟨fun hall => ⟨fun _ => hall, fun hne => absurd rfl hne⟩, fun hall => hall.1 rfl⟩
    · exact ⟨fun heq => ⟨fun h => absurd h hqname, fun _ => heq⟩, fun hall => hall.2 hqname⟩

end choice

/-! ## The lookups of the handler -/

/-- What `validate_url_get_bool_param` compares with. -/
def boolTexts : List (List Char × Bool) := [("true".toList, true)]

/-- What `validate_url_get_validate_type_from_params` compares with. -/
def typeTexts : List (List Char × ValidateUrlType) :=
  [("check_post_advs".toList, .postAdvs), ("check_post_stat".toList, .postStat),
    ("check_mqtt".toList, .checkMqtt), ("check_remote_cfg".toList, .checkRemoteCfg),
    ("check_fw_update_url".toList, .checkFwUpdateUrl), ("check_file".toList, .checkFile)]

theorem separate_boolTexts : Separate boolTexts false := by
  constructor
  · decide
  · decide

theorem separate_typeTexts : Separate typeTexts .invalid := by
  constructor
  · decide +kernel
  · decide

/-- `validate_url_get_mqtt_disable_retained_messages`. -/
def validateUrlGetMqttDisableRetainedMessages (params : List Char) : Bool :=
  validateUrlGetBoolParam params "mqtt_disable_retained_messages="

theorem validateUrlGetBoolParam_eq (params : List Char) (pre : String) :
    validateUrlGetBoolParam params pre = rawChoice boolTexts false params pre := by
  rw [validateUrlGetBoolParam, rawChoice]
  cases rawValue params pre with
  | none => rfl
  | some v =>
    show startsText v "true" = startsChoice boolTexts false v
    rw [boolTexts, startsChoice_cons, startsChoice_nil]
    change startsText v "true" = if startsText v "true" then true else false
    cases startsText v "true" with
    | false => rfl
    | true => rfl

theorem validateUrlGetValidateTypeFromParams_eq (params : List Char) :
    validateUrlGetValidateTypeFromParams params =
      rawChoice typeTexts .invalid params "validate_type=" := by
  rw [validateUrlGetValidateTypeFromParams, rawChoice]
  cases rawValue params "validate_type=" with
  | none => rfl
  | some v =>
    show _ = startsChoice typeTexts .invalid v
    rw [typeTexts, startsChoice_cons, startsChoice_cons, startsChoice_cons, startsChoice_cons,
      startsChoice_cons, startsChoice_cons, startsChoice_nil]
    rfl

/-- Each lookup of the handler gives what `http_server_get_from_params` gives, for a parameter of
any name, and for those two that the handler asks for by name. -/
def LookupsAgree (name : List Char) (p : QueryParam) (ps : List QueryParam) : Prop :=
  validateUrlGetBoolParam (queryString p ps) (String.ofList (name ++ ['='])) =
      exactChoice boolTexts false (httpServerGetFromParams (queryString p ps) (name ++ ['='])) ∧
    validateUrlGetMqttDisableRetainedMessages (queryString p ps) =
      exactChoice boolTexts false
        (httpServerGetFromParams (queryString p ps) "mqtt_disable_retained_messages=".toList) ∧
    validateUrlGetValidateTypeFromParams (queryString p ps) =
      exactChoice typeTexts .invalid
        (httpServerGetFromParams (queryString p ps) "validate_type=".toList)

/-- **The lookups agree** if and only if the query string is unambiguous for each of them. -/
theorem lookupsAgree_iff {name : List Char} (hname : ∀ c ∈ name, c ≠ '=' ∧ c ≠ '&')
    (p : QueryParam) (ps : List QueryParam) : LookupsAgree name p ps ↔
      Unambiguous boolTexts false name (p :: ps) ∧
        Unambiguous boolTexts false "mqtt_disable_retained_messages".toList (p :: ps) ∧
          Unambiguous typeTexts .invalid "validate_type".toList (p :: ps) := by
  have hretained : ∀ c ∈ "mqtt_disable_retained_messages".toList, c ≠ '=' ∧ c ≠ '&' :=
    isName_of_all (by decide)
  have htype : ∀ c ∈ "validate_type".toList, c ≠ '=' ∧ c ≠ '&' :=
    isName_of_all (by decide)
  rw [LookupsAgree, validateUrlGetBoolParam_eq, validateUrlGetMqttDisableRetainedMessages,
    validateUrlGetBoolParam_eq, validateUrlGetValidateTypeFromParams_eq,
    httpServerGetFromParams_queryString hname]
  refine and_congr (rawChoice_eq_iff separate_boolTexts hname String.toList_ofList p ps)
    (and_congr ?_ ?_)
  · have hget := httpServerGetFromParams_queryString hretained p ps
    have hiff := rawChoice_eq_iff separate_boolTexts hretained
      (show "mqtt_disable_retained_messages=".toList = _ by decide +kernel) p ps
    rwa [← hget] at hiff
  · have hget := httpServerGetFromParams_queryString htype p ps
    have hiff := rawChoice_eq_iff separate_typeTexts htype
      (show "validate_type=".toList = _ by decide +kernel) p ps
    rwa [← hget] at hiff

/-- `"validate_type=check_mqtt&use_ssl_client_cert=true"` is unambiguous. -/
theorem unambiguous_checkMqtt :
    Unambiguous typeTexts .invalid "validate_type".toList
      [⟨"validate_type".toList, "check_mqtt".toList, isName_of_all (by decide), by decide⟩,
        ⟨"use_ssl_client_cert".toList, "true".toList, isName_of_all (by decide), by decide⟩] :=
  ((lookupsAgree_iff (isName_of_all (by decide))
    ⟨"validate_type".toList, "check_mqtt".toList, isName_of_all (by decide), by decide⟩
    [⟨"use_ssl_client_cert".toList, "true".toList, isName_of_all (by decide), by decide⟩]).mp
    (show LookupsAgree "use_ssl_client_cert".toList _ _ from
      ⟨by decide +kernel, by decide +kernel, by decide +kernel⟩)).2.2

/-- A longer name is taken for `use_ssl_client_cert`, and an empty value for `true` and for
`check_post_advs`. -/
theorem not_lookupsAgree :
    ¬ LookupsAgree "use_ssl_client_cert".toList
        ⟨"not_use_ssl_client_cert".toList, "true".toList, isName_of_all (by decide), by decide⟩
        [] ∧
      ¬ LookupsAgree "use_ssl_client_cert".toList
        ⟨"use_ssl_client_cert".toList, [], isName_of_all (by decide), by decide⟩ [] ∧
      ¬ LookupsAgree "use_ssl_client_cert".toList
        ⟨"validate_type".toList, [], isName_of_all (by decide), by decide⟩ [] :=
  ⟨fun h => absurd h.1 (by decide +kernel), fun h => absurd h.1 (by decide +kernel),
    fun h => absurd h.2.2 (by decide +kernel)⟩

end Relaying
end RuuviGateway
