import RuuviGateway.GwCfgJson.Instance
import RuuviGateway.GwCfgJson.Ops

/-!
# A change of the HTTP authorization

The credentials of all types lie over each other in the union `auth`.  When a document changes
the type, `gw_cfg_json_parse_http` writes the credentials that the document gives and leaves
the memory of the others as it is, and without a custom server it writes none: what is then
read under the new type may be the user, the password or the token of the previous one.
`gw_cfg_json_parse_remote` clears its union in this case.

A credential is clean if it is empty or what the document gives for it.  Besides, two
configurations that differ in the union only are compared after the same document.
-/

namespace RuuviGateway
namespace GwCfgJson

open CJson CString

/-! ## The credentials of a type -/

/-- A credential: its name in JSON, the size of its buffer and its string. -/
structure Credential where
  name : String
  size : Nat
  value : List Char
  deriving DecidableEq

/-- The fields of `ruuvi_gw_cfg_http_auth_t` that a type of authorization uses. -/
def HttpAuth.credentials (authType : HttpAuthType) (auth : HttpAuth) : List Credential :=
  match authType with
  | .none => []
  | .basic => [⟨"http_user", 51, auth.user⟩, ⟨"http_pass", 51, auth.password⟩]
  | .bearer => [⟨"http_bearer_token", 256, auth.token⟩]
  | .token | .apikey => [⟨"http_api_key", 256, auth.token⟩]

/-- The string that a document gives under a name. -/
def givenString (j : Json) (name : String) : Option (List Char) :=
  (getObjectItem j name).bind getStringValue

namespace Credential

/-- The value is empty or the one that the document gives. -/
def FromDocument (j : Json) (c : Credential) : Prop :=
  c.value = [] ∨ ∃ s, givenString j c.name = some s ∧ c.value = written c.size s

/-- What the parser makes of a credential: a string of the document is stored, and without one
the credential stays empty or not empty. -/
structure Stored (j : Json) (c c' : Credential) : Prop where
  name : c'.name = c.name
  size : c'.size = c.size
  given : ∀ s, givenString j c.name = some s → c'.value = written c.size s
  missing : givenString j c.name = none → (c'.value = [] ↔ c.value = [])

theorem Stored.fromDocument_iff {j : Json} {c c' : Credential} (h : Stored j c c') :
    c'.FromDocument j ↔ (givenString j c.name).isSome = true ∨ c.FromDocument j := by
  unfold FromDocument
  rw [h.name, h.size]
  cases hg : givenString j c.name with
  | none => simp [h.missing hg]
  | some s => simp [h.given s hg]

end Credential

/-! ## The parser -/

theorem copyStringTo_some {j : Json} {name : String} {s : List Char}
    (h : givenString j name = some s) (set : List Char → HttpAuth → HttpAuth) (a : HttpAuth) :
    copyStringTo j name set a = set s a := by
  unfold copyStringTo
  unfold givenString at h
  rw [h]

theorem copyStringTo_none {j : Json} {name : String} (h : givenString j name = none)
    (set : List Char → HttpAuth → HttpAuth) (a : HttpAuth) : copyStringTo j name set a = a := by
  unfold copyStringTo
  unfold givenString at h
  rw [h]

/-- The password begins behind the first byte of the user. -/
theorem HttpAuth.user_setPassword_eq_nil (a : HttpAuth) (s : List Char) :
    (a.setPassword s).user = [] ↔ a.user = [] := by
  constructor
  · intro h
    have hread : a.user = (a.setPassword s).user :=
      Mem.read_of_write_lt (o := 0) s (by
        change 0 + (HttpAuth.user (HttpAuth.setPassword s a)).length < 51
        rw [h, List.length_nil]
        omega)
    rw [hread, h]
  · intro h
    rw [HttpAuth.user_setPassword s (by rw [h, List.length_nil]; omega), h]

theorem stored_token (j : Json) (name : String) (a : HttpAuth) :
    Credential.Stored j ⟨name, 256, a.token⟩
      ⟨name, 256, (copyStringTo j name HttpAuth.setToken a).token⟩ where
  name := rfl
  size := rfl
  given s h := by rw [copyStringTo_some h, HttpAuth.token_setToken]
  missing h := by rw [copyStringTo_none h]

theorem stored_user (j : Json) (a : HttpAuth) :
    Credential.Stored j ⟨"http_user", 51, a.user⟩
      ⟨"http_user", 51, (gwCfgJsonParseHttpAuth j .basic a).user⟩ where
  name := rfl
  size := rfl
  given s h := by
    have huser : (HttpAuth.setUser s a).user.length < 51 := by
      rw [HttpAuth.user_setUser]
      exact written_length_lt (by omega) s
    simp only [gwCfgJsonParseHttpAuth, copyStringTo_some h]
    cases hp : givenString j "http_pass" with
    | none => rw [copyStringTo_none hp, HttpAuth.user_setUser]
    | some t => rw [copyStringTo_some hp, HttpAuth.user_setPassword t huser, HttpAuth.user_setUser]
  missing h := by
    simp only [gwCfgJsonParseHttpAuth, copyStringTo_none h]
    cases hp : givenString j "http_pass" with
    | none => rw [copyStringTo_none hp]
    | some t => rw [copyStringTo_some hp, HttpAuth.user_setPassword_eq_nil]

theorem stored_password (j : Json) (a : HttpAuth) :
    Credential.Stored j ⟨"http_pass", 51, a.password⟩
      ⟨"http_pass", 51, (gwCfgJsonParseHttpAuth j .basic a).password⟩ where
  name := rfl
  size := rfl
  given s h := by
    simp only [gwCfgJsonParseHttpAuth, copyStringTo_some h, HttpAuth.password_setPassword]
  missing h := by
    simp only [gwCfgJsonParseHttpAuth, copyStringTo_none h]
    cases hu : givenString j "http_user" with
    | none => rw [copyStringTo_none hu]
    | some t => rw [copyStringTo_some hu, HttpAuth.password_setUser]

/-- `gw_cfg_json_parse_http_auth` stores each credential of the type. -/
theorem stored_parseHttpAuth (j : Json) (t : HttpAuthType) (a : HttpAuth) :
    List.Forall₂ (Credential.Stored j) (HttpAuth.credentials t a)
      (HttpAuth.credentials t (gwCfgJsonParseHttpAuth j t a)) := by
  cases t with
  | none => exact .nil
  | basic => exact .cons (stored_user j a) (.cons (stored_password j a) .nil)
  | bearer => exact .cons (stored_token j "http_bearer_token" a) .nil
  | token => exact .cons (stored_token j "http_api_key" a) .nil
  | apikey => exact .cons (stored_token j "http_api_key" a) .nil

theorem forall_mem_iff_of_forall₂ {α : Type} {R : α → α → Prop} {P Q : α → Prop} {l l' : List α}
    (h : List.Forall₂ R l l') (hiff : ∀ a b, R a b → (P b ↔ Q a)) :
    (∀ b ∈ l', P b) ↔ ∀ a ∈ l, Q a := by
  induction h with
  | nil => simp
  | cons hab _ ih => simp only [List.forall_mem_cons, hiff _ _ hab, ih]

section cfg

variable [Components]

/-- The type and the union after `gw_cfg_json_parse_http`: without a custom server the
credentials are not read. -/
theorem parseHttp_auth {j : Json} {h h' : Http} (hparse : gwCfgJsonParseHttp j h = some h') :
    h'.authType = gwCfgJsonParseHttpAuthType j h.authType ∧
      h'.auth = if getBoolVal j "use_http" h.useHttp then
        gwCfgJsonParseHttpAuth j (gwCfgJsonParseHttpAuthType j h.authType) h.auth else h.auth := by
  have hpatch : ∀ x : Http, (gwCfgJsonPatchHttpLegacyPreV114 x).authType = x.authType := by
    intro x
    unfold gwCfgJsonPatchHttpLegacyPreV114
    split <;> rfl
  simp only [gwCfgJsonParseHttp, Option.bind_eq_bind, Option.bind_eq_some_iff,
    Option.some.injEq] at hparse
  obtain ⟨period, -, rfl⟩ := hparse
  cases huse : getBoolVal j "use_http" h.useHttp with
  | true => simp only [if_true, hpatch, gwCfgJsonPatchHttpLegacyPreV114_auth, and_self]
  | false => simp only [Bool.false_eq_true, if_false, and_self]

/-- **When a change of the type leaves nothing of the previous one.**  After
`gw_cfg_json_parse_http` every credential of the type is empty or from the document, if and
only if each one is given by the document, with a custom server in use, or is so in the union
as it was. -/
theorem httpAuth_fromDocument_iff {j : Json} {h h' : Http}
    (hparse : gwCfgJsonParseHttp j h = some h') :
    (∀ c ∈ HttpAuth.credentials h'.authType h'.auth, c.FromDocument j) ↔
      ∀ c ∈ HttpAuth.credentials (gwCfgJsonParseHttpAuthType j h.authType) h.auth,
        getBoolVal j "use_http" h.useHttp = true ∧ (givenString j c.name).isSome = true ∨
          c.FromDocument j := by
  obtain ⟨htype, hauth⟩ := parseHttp_auth hparse
  rw [htype, hauth]
  cases getBoolVal j "use_http" h.useHttp with
  | true =>
    simp only [if_true, true_and]
    exact forall_mem_iff_of_forall₂ (stored_parseHttpAuth j _ h.auth)
      fun _ _ hs => hs.fromDocument_iff
  | false => simp only [Bool.false_eq_true, if_false, false_and, false_or]

end cfg

/-! ## Two runs -/

/-- A union whose bytes are all the same character. -/
def HttpAuth.filled (x : Char) : HttpAuth := ⟨List.replicate 256 x, List.length_replicate⟩

/-- A credential that one run found empty and the other did not comes out the same only if the
document gives it. -/
theorem Credential.Stored.given_of_two {j : Json} {c₁ c₂ c' : Credential}
    (h₁ : Stored j c₁ c') (h₂ : Stored j c₂ c') (hname : c₂.name = c₁.name)
    (hempty : c₁.value = []) (hfull : c₂.value ≠ []) :
    (givenString j c₁.name).isSome = true := by
  cases hg : givenString j c₁.name with
  | some s => rfl
  | none =>
    have hnil := (h₁.missing hg).mpr hempty
    exact absurd ((h₂.missing (hname ▸ hg)).mp hnil) hfull

/-- Zeros and a union without zeros have different credentials, but for the names. -/
theorem forall₂_credentials_filled (t : HttpAuthType) :
    List.Forall₂ (fun c₁ c₂ => c₂.name = c₁.name ∧ c₁.value = [] ∧ c₂.value ≠ [])
      (HttpAuth.credentials t (HttpAuth.filled nul))
      (HttpAuth.credentials t (HttpAuth.filled 'x')) := by
  cases t <;> simp only [HttpAuth.credentials, List.forall₂_cons, List.forall₂_nil_right_iff] <;>
    decide

theorem HttpAuth.credentials_eq_nil_iff {t : HttpAuthType} {a : HttpAuth} :
    HttpAuth.credentials t a = [] ↔ t = .none := by
  cases t <;> simp [HttpAuth.credentials]

theorem names_credentials (t : HttpAuthType) (a b : HttpAuth) :
    (HttpAuth.credentials t a).map Credential.name =
      (HttpAuth.credentials t b).map Credential.name := by
  cases t <;> rfl

theorem given_of_forall₂ {j : Json} {l₁ l₂ l : List Credential}
    (hfill : List.Forall₂ (fun c₁ c₂ => c₂.name = c₁.name ∧ c₁.value = [] ∧ c₂.value ≠ []) l₁ l₂)
    (h₁ : List.Forall₂ (Credential.Stored j) l₁ l) (h₂ : List.Forall₂ (Credential.Stored j) l₂ l) :
    ∀ n ∈ l₁.map Credential.name, (givenString j n).isSome = true := by
  induction hfill generalizing l with
  | nil => simp
  | cons hc _ ih =>
    cases h₁ with
    | cons hs₁ ht₁ =>
      cases h₂ with
      | cons hs₂ ht₂ =>
        rw [List.map_cons, List.forall_mem_cons]
        exact ⟨hs₁.given_of_two hs₂ hc.1 hc.2.1 hc.2.2, ih ht₁ ht₂⟩

/-- What is given comes out the same, whatever was there. -/
theorem eq_of_given {j : Json} {l₁ l₂ l₁' l₂' : List Credential}
    (hsame : List.Forall₂ (fun c₁ c₂ => c₂.name = c₁.name ∧ c₂.size = c₁.size) l₁ l₂)
    (h₁ : List.Forall₂ (Credential.Stored j) l₁ l₁')
    (h₂ : List.Forall₂ (Credential.Stored j) l₂ l₂')
    (hgiven : ∀ n ∈ l₁.map Credential.name, (givenString j n).isSome = true) : l₁' = l₂' := by
  induction hsame generalizing l₁' l₂' with
  | nil =>
    cases h₁
    cases h₂
    rfl
  | @cons c₁ c₂ _ _ hc _ ih =>
    cases h₁ with
    | @cons _ c₁' _ _ hs₁ ht₁ =>
      cases h₂ with
      | @cons _ c₂' _ _ hs₂ ht₂ =>
        rw [List.map_cons, List.forall_mem_cons] at hgiven
        obtain ⟨s, hs⟩ := Option.isSome_iff_exists.mp hgiven.1
        have hvalue : c₁'.value = c₂'.value := by
          rw [hs₁.given s hs, hs₂.given s (hc.1 ▸ hs), hc.2]
        have hname : c₁'.name = c₂'.name := hs₁.name.trans (hc.1.symm.trans hs₂.name.symm)
        have hsize : c₁'.size = c₂'.size := hs₁.size.trans (hc.2.symm.trans hs₂.size.symm)
        have heq : c₁' = c₂' := by
          cases c₁'
          cases c₂'
          simp only at hvalue hname hsize
          rw [hvalue, hname, hsize]
        rw [heq, ih ht₁ ht₂ hgiven.2]

/-- Credentials that are read are the same over every union if the document gives each. -/
theorem credentials_parse_eq_iff (j : Json) (t : HttpAuthType) :
    (∀ a₁ a₂, HttpAuth.credentials t (gwCfgJsonParseHttpAuth j t a₁) =
      HttpAuth.credentials t (gwCfgJsonParseHttpAuth j t a₂)) ↔
    ∀ n ∈ (HttpAuth.credentials t (HttpAuth.filled nul)).map Credential.name,
      (givenString j n).isSome = true := by
  constructor
  · intro hsame
    refine given_of_forall₂ (forall₂_credentials_filled t) (stored_parseHttpAuth j t _) ?_
    rw [hsame _ (HttpAuth.filled 'x')]
    exact stored_parseHttpAuth j t _
  · intro hgiven a₁ a₂
    refine eq_of_given ?_ (stored_parseHttpAuth j t a₁) (stored_parseHttpAuth j t a₂) ?_
    · cases t <;> simp [HttpAuth.credentials]
    · rw [names_credentials t a₁ (HttpAuth.filled nul)]
      exact hgiven

/-- Credentials that are not read are the same over every union only if there are none. -/
theorem credentials_eq_iff (t : HttpAuthType) :
    (∀ a₁ a₂, HttpAuth.credentials t a₁ = HttpAuth.credentials t a₂) ↔ t = .none := by
  constructor
  · intro hsame
    have hfill := forall₂_credentials_filled t
    rw [hsame _ (HttpAuth.filled 'x')] at hfill
    have hnil : HttpAuth.credentials t (HttpAuth.filled 'x') = [] := by
      generalize HttpAuth.credentials t (HttpAuth.filled 'x') = l at hfill
      cases hfill with
      | nil => rfl
      | cons hc _ => exact absurd hc.2.1 hc.2.2
    exact HttpAuth.credentials_eq_nil_iff.mp hnil
  · rintro rfl a₁ a₂
    rfl

section cfg

variable [Components]

/-- Over every union the document is read with the same type. -/
theorem parseHttp_over {j : Json} {h h' : Http} (hparse : gwCfgJsonParseHttp j h = some h')
    (a : HttpAuth) : ∃ r, gwCfgJsonParseHttp j { h with auth := a } = some r ∧
      r.authType = h'.authType ∧
      r.auth = if getBoolVal j "use_http" h.useHttp then
        gwCfgJsonParseHttpAuth j h'.authType a else a := by
  have hsome : (gwCfgJsonParseHttp j { h with auth := a }).isSome = true := by
    rw [parseHttp_isSome, ← parseHttp_isSome h, hparse, Option.isSome_some]
  obtain ⟨r, hr⟩ := Option.isSome_iff_exists.mp hsome
  rw [(parseHttp_auth hparse).1]
  exact ⟨r, hr, parseHttp_auth hr⟩

/-- **When nothing flows from the union as it was.**  Two configurations that differ in the
union have the same credentials after the same document, whatever the two unions are, if and
only if the document gives each credential of its type and a custom server is in use. -/
theorem sameCredentials_iff {j : Json} {h h' : Http} (hparse : gwCfgJsonParseHttp j h = some h') :
    (∀ a₁ a₂ r₁ r₂, gwCfgJsonParseHttp j { h with auth := a₁ } = some r₁ →
      gwCfgJsonParseHttp j { h with auth := a₂ } = some r₂ →
      HttpAuth.credentials r₁.authType r₁.auth = HttpAuth.credentials r₂.authType r₂.auth) ↔
    ∀ c ∈ HttpAuth.credentials h'.authType h'.auth,
      getBoolVal j "use_http" h.useHttp = true ∧ (givenString j c.name).isSome = true := by
  have hruns := parseHttp_over hparse
  generalize getBoolVal j "use_http" h.useHttp = useHttp at hruns ⊢
  trans ∀ a₁ a₂, HttpAuth.credentials h'.authType
      (if useHttp then gwCfgJsonParseHttpAuth j h'.authType a₁ else a₁) =
    HttpAuth.credentials h'.authType
      (if useHttp then gwCfgJsonParseHttpAuth j h'.authType a₂ else a₂)
  · constructor
    · intro hsame a₁ a₂
      obtain ⟨r₁, hr₁, htype₁, hauth₁⟩ := hruns a₁
      obtain ⟨r₂, hr₂, htype₂, hauth₂⟩ := hruns a₂
      have heq := hsame a₁ a₂ r₁ r₂ hr₁ hr₂
      rwa [htype₁, htype₂, hauth₁, hauth₂] at heq
    · intro hsame a₁ a₂ r₁ r₂ hr₁ hr₂
      obtain ⟨r₁', hr₁', htype₁, hauth₁⟩ := hruns a₁
      obtain ⟨r₂', hr₂', htype₂, hauth₂⟩ := hruns a₂
      obtain rfl : r₁' = r₁ := Option.some.inj (hr₁'.symm.trans hr₁)
      obtain rfl : r₂' = r₂ := Option.some.inj (hr₂'.symm.trans hr₂)
      rw [htype₁, htype₂, hauth₁, hauth₂]
      exact hsame a₁ a₂
  · cases useHttp with
    | true =>
      simp only [if_true, true_and]
      rw [credentials_parse_eq_iff, names_credentials h'.authType _ h'.auth, List.forall_mem_map]
    | false =>
      simp only [Bool.false_eq_true, if_false, false_and]
      rw [credentials_eq_iff, ← HttpAuth.credentials_eq_nil_iff (a := h'.auth)]
      exact List.eq_nil_iff_forall_not_mem

end cfg

open Sample

/-- A server that was used with a user and a password. -/
def basicHttp : Http := { gatewayConfigDefaultRuuvi.http with
  useHttpRuuvi := false
  useHttp := true
  httpUrl := snprintf 256 "https://example.com/record".toList
  authType := .basic
  auth := HttpAuth.setPassword "secret".toList (HttpAuth.setUser "admin".toList (Mem.zero 256)) }

/-- A document that asks for a bearer token and gives this one. -/
def bearerWith (token : Option String) : Json := .object
  (("http_auth", lit "bearer") :: token.toList.map fun t => ("http_bearer_token", lit t))

theorem bearerWith_token_fromDocument :
    ∃ h', gwCfgJsonParseHttp (bearerWith (some "token")) basicHttp = some h' ∧
      ∀ c ∈ HttpAuth.credentials h'.authType h'.auth,
        c.FromDocument (bearerWith (some "token")) := by
  obtain ⟨h', hparse⟩ := Option.isSome_iff_exists.mp
    (show (gwCfgJsonParseHttp (bearerWith (some "token")) basicHttp).isSome = true by
      decide +kernel)
  refine ⟨h', hparse, (httpAuth_fromDocument_iff hparse).mpr ?_⟩
  have htype : gwCfgJsonParseHttpAuthType (bearerWith (some "token")) basicHttp.authType =
      .bearer := by decide +kernel
  rw [htype]
  intro c hc
  rw [HttpAuth.credentials, List.mem_singleton] at hc
  rw [hc]
  exact Or.inl ⟨by decide +kernel, by decide +kernel⟩

/-- Without a token the user name is sent as one. -/
theorem bearer_token_is_the_user :
    ∃ h', gwCfgJsonParseHttp (bearerWith none) basicHttp = some h' ∧
      basicHttp.authType = .basic ∧ h'.authType = .bearer ∧ h'.useHttp = true ∧
      givenString (bearerWith none) "http_bearer_token" = none ∧
      h'.auth.token = "admin".toList ∧ basicHttp.auth.user = "admin".toList ∧
      ¬ ∀ c ∈ HttpAuth.credentials h'.authType h'.auth, c.FromDocument (bearerWith none) := by
  have hrun : (do
      let h' ← gwCfgJsonParseHttp (bearerWith none) basicHttp
      some (decide (h'.authType = .bearer ∧ h'.useHttp = true ∧
        h'.auth.token = "admin".toList))) = some true := by decide +kernel
  simp only [Option.bind_eq_bind, Option.bind_eq_some_iff, Option.some.injEq,
    decide_eq_true_eq] at hrun
  obtain ⟨h', hparse, htype, huse, htoken⟩ := hrun
  have hgiven : givenString (bearerWith none) "http_bearer_token" = none := by decide +kernel
  refine ⟨h', hparse, by decide +kernel, htype, huse, hgiven, htoken, by decide +kernel, ?_⟩
  intro hall
  have hclean := hall ⟨"http_bearer_token", 256, h'.auth.token⟩ (by
    rw [htype]
    exact List.mem_cons_self)
  rcases hclean with hnil | ⟨s, hs, -⟩
  · rw [htoken] at hnil
    exact absurd hnil (by decide)
  · exact absurd (hgiven.symm.trans hs) (by simp)

end GwCfgJson
end RuuviGateway
