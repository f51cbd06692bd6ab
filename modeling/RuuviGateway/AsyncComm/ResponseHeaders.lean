import RuuviGateway.AsyncComm.Ownership

/-!
# Whose key and whose rate a response header changes

A server may send a new HMAC key (`Ruuvi-HMAC-KEY`) or a new posting period
(`X-Ruuvi-Gateway-Rate`) in a response header.  The event handler does not know which
request the response belongs to; it looks at `g_adv_post_action`.

The action is set by the `adv_post` task when it starts a post and, inside
`http_send_advs_internal`, also by `http_check_post_advs`, which the HTTP server calls
to test a target.  `http_check_post_stat` does not set it.  So a statistics check is
handled under whatever action was left behind: that of the last
`http_check_post_advs`, or that of a post which was aborted when relaying was
suspended.  `statCheck_changes_ruuvi_key` is such a run.

`StatCheckClean` excludes exactly the headers of a statistics check that arrive under
a leftover advertisement action.  In every run without them the headers are
attributed to the right target (`attributed_of_statCheckClean`): the action is the one
of the request in progress, or one under which headers are ignored.
-/

namespace RuuviGateway
namespace AsyncComm

open TransitionSystem

variable {ρ : Type} {s t : State ρ}

/-! ## The HTTP server's checks -/

/-- The steps of the `adv_post` task together with the posts of the HTTP server. -/
inductive PostAct (ρ : Type) where
  | advPost (a : Act ρ)
  /-- `http_check_post_advs` or `http_check_post_stat`, up to the first
  `esp_http_client_perform`. -/
  | checkPost (target : Target) (outcome : SendOutcome)
  /-- A header of the response to the check arrives. -/
  | checkHeader (h : Header)
  /-- The check ends, with a response or without. -/
  | checkDone

/-- `http_check_post_advs` and `http_check_post_stat` assert that relaying via HTTP is
suspended; `httpPost` asserts that no request is in progress. -/
def checkPost (target : Target) (outcome : SendOutcome) (s : State ρ) : Option (State ρ) :=
  if s.gwRelayingViaHttp then none
  else (httpPost .httpServer target outcome s).map Prod.fst

/-- One step. -/
def postStep (s : State ρ) : PostAct ρ → Option (State ρ)
  | .advPost a => step s a
  | .checkPost target outcome => checkPost target outcome s
  | .checkHeader h =>
      match s.httpReq with
      | some ⟨target, .httpServer⟩ => some (recvHeader target s h)
      | _ => none
  | .checkDone =>
      match s.httpReq with
      | some ⟨_, .httpServer⟩ => some { s with httpReq := none }
      | _ => none

/-- The `adv_post` task and the HTTP server. -/
def postSystem (ρ : Type) : System (State ρ) (PostAct ρ) where
  init := (system ρ).init
  step := postStep

/-! ## Attribution -/

/-- The HMAC key of a target. -/
def Creds.key (c : Creds) : Target → String
  | .advs1 => c.keyRuuvi
  | .advs2 => c.keyCustom
  | .stats => c.keyStats

/-- The posting period of a target; statistics have none that a server can change. -/
def Creds.period (c : Creds) : Target → Option Nat
  | .advs1 => some c.period1
  | .advs2 => some c.period2
  | .stats => none

/-- A header changed nothing but what it may change: a key header the key and a rate
header the period of the target of its request. -/
structure Attributed (e : HeaderEvent) : Prop where
  key : ∀ target, e.after.key target ≠ e.before.key target →
    target = e.target ∧ ∃ value, e.header = .ruuviHmacKey value
  period : ∀ target, e.after.period target ≠ e.before.period target →
    target = e.target ∧ ∃ n, e.header = .gatewayRate n

/-- **The property**: every header of every response was attributed to its target. -/
def AllAttributed (s : State ρ) : Prop :=
  ∀ e ∈ s.headerLog, Attributed e

/-- The actions under which a header for `target` is handled correctly. -/
def Action.Fits (a : Action) (target : Target) : Prop :=
  a = target.action ∨ a = .none ∨ a = .postAdvsToMqtt

/-- **Under a fitting action a header is attributed to its target.** -/
theorem attributed_of_fits {a : Action} {target : Target} (hfits : a.Fits target) (h : Header)
    (c : Creds) : Attributed ⟨target, h, c, onHeader a h c⟩ := by
  cases h with
  | ruuviHmacKey value =>
    have hperiod : ∀ x, (onHeader a (.ruuviHmacKey value) c).period x = c.period x := by
      intro x
      cases a <;> cases x <;> rfl
    refine ⟨fun x hx => ⟨?_, value, rfl⟩, fun x hx => absurd (hperiod x) hx⟩
    rcases hfits with rfl | rfl | rfl
    · cases target <;> cases x <;>
        first
        | rfl
        | exact absurd rfl hx
    · exact absurd rfl hx
    · exact absurd rfl hx
  | gatewayRate n =>
    have hkey : ∀ x, (onHeader a (.gatewayRate n) c).key x = c.key x := by
      intro x
      cases a <;> cases x <;> rfl
    refine ⟨fun x hx => absurd (hkey x) hx, fun x hx => ⟨?_, n, rfl⟩⟩
    rcases hfits with rfl | rfl | rfl
    · cases target <;> cases x <;>
        first
        | rfl
        | exact absurd rfl hx
    · exact absurd rfl hx
    · exact absurd rfl hx
  | other => exact ⟨fun _ hx => absurd rfl hx, fun _ hx => absurd rfl hx⟩

theorem attributed_other (a : Action) (target : Target) (c : Creds) :
    Attributed ⟨target, .other, c, onHeader a .other c⟩ :=
  ⟨fun _ hx => absurd rfl hx, fun _ hx => absurd rfl hx⟩

theorem AllAttributed.recvHeaders {target : Target} (h : AllAttributed s)
    (hfits : s.action.Fits target) (hs : List Header) :
    AllAttributed (recvHeaders target hs s) := by
  induction hs generalizing s with
  | nil => exact h
  | cons x hs ih =>
    refine ih (s := recvHeader target s x) ?_ hfits
    rintro e (_ | ⟨_, he⟩)
    · exact attributed_of_fits hfits x s.creds
    · exact h e he

/-! ## The invariant -/

/-- The header can change something. -/
def Header.inert : Header → Bool
  | .other => true
  | .ruuviHmacKey _ | .gatewayRate _ => false

/-- The headers that arrive while `http_send_async` runs. -/
def SendOutcome.headers : SendOutcome → List Header
  | .failed => []
  | .sendFailed hs | .inProgress hs => hs

/-- An action under which a header changes the credentials of an advertisement target. -/
def Action.isAdvs : Action → Bool
  | .postAdvsToRuuvi | .postAdvsToCustom => true
  | .none | .postStats | .postAdvsToMqtt => false

/-- A key or rate header of a statistics check arrives under a leftover action. -/
def statCheckMisattributed (s : State ρ) : PostAct ρ → Bool
  | .checkPost .stats outcome => !outcome.headers.all Header.inert && s.action.isAdvs
  | .checkHeader h =>
      decide (s.httpReq = some ⟨.stats, .httpServer⟩) && !h.inert && s.action.isAdvs
  | _ => false

/-- **The condition**: no key or rate header of a statistics check arrives while
`g_adv_post_action` is one of the two advertisement actions. -/
def StatCheckClean (s : State ρ) (a : PostAct ρ) : Prop :=
  statCheckMisattributed s a = false

instance (s : State ρ) (a : PostAct ρ) : Decidable (StatCheckClean s a) :=
  inferInstanceAs (Decidable (_ = _))

theorem Action.fits_stats {a : Action} (h : a.isAdvs = false) : a.Fits .stats := by
  cases a with
  | none => exact Or.inr (Or.inl rfl)
  | postAdvsToRuuvi => exact absurd h.symm Bool.false_ne_true
  | postAdvsToCustom => exact absurd h.symm Bool.false_ne_true
  | postStats => exact Or.inl rfl
  | postAdvsToMqtt => exact Or.inr (Or.inr rfl)

theorem AllAttributed.recvInert {target : Target} (h : AllAttributed s) {hs : List Header}
    (hinert : hs.all Header.inert = true) : AllAttributed (AsyncComm.recvHeaders target hs s) := by
  induction hs generalizing s with
  | nil => exact h
  | cons x hs ih =>
    rw [List.all_cons, Bool.and_eq_true] at hinert
    refine ih (s := recvHeader target s x) ?_ hinert.2
    rintro e (_ | ⟨_, he⟩)
    · cases x with
      | other => exact attributed_other s.action target s.creds
      | ruuviHmacKey v => exact absurd hinert.1 Bool.false_ne_true
      | gatewayRate n => exact absurd hinert.1 Bool.false_ne_true
    · exact h e he

/-- What a request in progress says about the action. -/
structure PostInv (s : State ρ) : Prop where
  log : AllAttributed s
  task : ∀ r, s.httpReq = some r → s.pTask = some r.task
  own : ∀ target, s.httpReq = some ⟨target, .advPost⟩ →
    s.advPost.flagAsyncCommInProgress = true ∧ s.action = target.action
  check : ∀ target, s.httpReq = some ⟨target, .httpServer⟩ → target ≠ .stats →
    s.action.Fits target

/-- The states that look the same to the HTTP client. -/
structure SamePost (s t : State ρ) : Prop where
  log : t.headerLog = s.headerLog
  req : t.httpReq = s.httpReq
  task : t.pTask = s.pTask
  action : t.action = s.action
  inProgress : t.advPost.flagAsyncCommInProgress = s.advPost.flagAsyncCommInProgress

theorem PostInv.of_same (h : PostInv s) (hst : SamePost s t) : PostInv t where
  log := fun e he => h.log e (hst.log ▸ he)
  task := fun r hr => hst.task.trans (h.task r (hst.req.symm.trans hr))
  own := fun target hr => by
    rw [hst.action, hst.inProgress]
    exact h.own target (hst.req.symm.trans hr)
  check := fun target hr hne => by
    rw [hst.action]
    exact h.check target (hst.req.symm.trans hr) hne

/-- No request of the `adv_post` task is in progress, and the rest of the invariant. -/
structure Quiet (s : State ρ) : Prop where
  log : AllAttributed s
  task : ∀ r, s.httpReq = some r → s.pTask = some r.task
  notOwn : ∀ target, s.httpReq ≠ some ⟨target, .advPost⟩
  check : ∀ target, s.httpReq = some ⟨target, .httpServer⟩ → target ≠ .stats →
    s.action.Fits target

theorem Quiet.inv (h : Quiet s) : PostInv s :=
  ⟨h.log, h.task, fun target hr => absurd hr (h.notOwn target), h.check⟩

/-- Outside an action of the task there is no request of its own. -/
theorem PostInv.quiet (h : PostInv s) (hp : s.advPost.flagAsyncCommInProgress = false) :
    Quiet s :=
  ⟨h.log, h.task, fun target hr =>
    absurd ((h.own target hr).1.symm.trans hp) (by decide), h.check⟩

/-- Headers of a check are ignored once the action is "none" or MQTT. -/
theorem Quiet.withAction (h : Quiet s) {a : Action} (ha : a = .none ∨ a = .postAdvsToMqtt) :
    Quiet { s with action := a } :=
  ⟨h.log, h.task, h.notOwn, fun _ _ _ => Or.inr ha⟩

/-! ## Sending -/

theorem recvHeaders_samePost (target : Target) (hs : List Header) (s : State ρ) :
    (recvHeaders target hs s).httpReq = s.httpReq ∧
      (recvHeaders target hs s).pTask = s.pTask := by
  induction hs generalizing s with
  | nil => exact ⟨rfl, rfl⟩
  | cons h hs ih => exact ih (recvHeader target s h)

/-- How a sending function of the `adv_post` task ends: the request is in progress and
its own, or nothing is in progress that was not before. -/
structure Posted (target : Target) (s t : State ρ) (b : Bool) : Prop where
  log : AllAttributed s → AllAttributed t
  action : t.action = s.action
  advPost : t.advPost = s.advPost
  failed : b = false → t.httpReq = s.httpReq ∧ (t.pTask = s.pTask ∨ s.httpReq = none)
  sent : b = true → s.httpReq = none ∧ t.httpReq = some ⟨target, .advPost⟩ ∧
    t.pTask = some .advPost

theorem posted_refl (target : Target) (s : State ρ) : Posted target s s false :=
  ⟨id, rfl, rfl, fun _ => ⟨rfl, Or.inl rfl⟩, fun h => absurd h (by decide)⟩

theorem posted_httpPost {o : SendOutcome} {b : Bool} (target : Target)
    (ha : s.action = target.action) (h : httpPost .advPost target o s = some (t, b)) :
    Posted target s t b := by
  obtain ⟨hsame, hpost⟩ := httpPost_same target ha h
  unfold httpPost at h
  split at h
  · exact absurd h (by simp)
  · rename_i hreq
    have hnone : s.httpReq = none := by simpa using hreq
    have hset : ∀ u : State ρ, u.action = target.action →
        (setAdvPostHttpAction target u).headerLog = u.headerLog ∧
          (setAdvPostHttpAction target u).httpReq = u.httpReq ∧
          (setAdvPostHttpAction target u).pTask = u.pTask ∧
          (setAdvPostHttpAction target u).action = target.action := by
      intro u hu
      cases target with
      | advs1 => exact ⟨rfl, rfl, rfl, rfl⟩
      | advs2 => exact ⟨rfl, rfl, rfl, rfl⟩
      | stats => exact ⟨rfl, rfl, rfl, hu⟩
    obtain ⟨hl, hq, htk, hact⟩ := hset { s with pTask := some .advPost } ha
    have hlog : ∀ hs, AllAttributed s → AllAttributed (recvHeaders target hs
        (setAdvPostHttpAction target { s with pTask := some .advPost })) := by
      intro hs hall
      refine AllAttributed.recvHeaders ?_ (Or.inl hact) hs
      exact fun e he => hall e (hl ▸ he)
    cases o with
    | failed =>
      obtain ⟨rfl, rfl⟩ := Prod.mk.inj (Option.some.inj h)
      exact ⟨id, rfl, rfl, fun _ => ⟨rfl, Or.inr hnone⟩, fun hb => absurd hb (by decide)⟩
    | sendFailed hs =>
      obtain ⟨rfl, rfl⟩ := Prod.mk.inj (Option.some.inj h)
      obtain ⟨hr, -⟩ := recvHeaders_samePost target hs
        (setAdvPostHttpAction target { s with pTask := some .advPost })
      exact ⟨hlog hs, hsame.action, hpost, fun _ => ⟨hr.trans hq, Or.inr hnone⟩,
        fun hb => absurd hb (by decide)⟩
    | inProgress hs =>
      obtain ⟨rfl, rfl⟩ := Prod.mk.inj (Option.some.inj h)
      obtain ⟨-, hp⟩ := recvHeaders_samePost target hs
        (setAdvPostHttpAction target { s with pTask := some .advPost })
      exact ⟨fun hall => hlog hs hall, hsame.action, hpost, fun hb => absurd hb (by decide),
        fun _ => ⟨hnone, rfl, hp.trans htk⟩⟩

theorem posted_retransmitAdvs {env : Env ρ} {b : Bool} (target : Target)
    (ha : s.action = target.action) (h : retransmitAdvs env target s = some (t, b)) :
    Posted target s t b := by
  unfold retransmitAdvs at h
  split at h
  · exact posted_httpPost target ha h
  · obtain ⟨rfl, rfl⟩ := Prod.mk.inj (Option.some.inj h)
    exact posted_refl target s

theorem posted_statisticsDoSend {env : Env ρ} {b : Bool} (ha : s.action = .postStats)
    (h : statisticsDoSend env s = some (t, b)) : Posted .stats s t b := by
  unfold statisticsDoSend at h
  split at h
  · exact posted_httpPost .stats ha h
  · obtain ⟨rfl, rfl⟩ := Prod.mk.inj (Option.some.inj h)
    exact posted_refl .stats s

theorem posted_doRetransmission {env : Env ρ} {b : Bool} (target : Target)
    (htarget : target ≠ .stats) (ha : s.action = target.action)
    (h : doRetransmission env target.action s = some (t, b)) : Posted target s t b := by
  unfold doRetransmission at h
  split at h
  · obtain ⟨rfl, rfl⟩ := Prod.mk.inj (Option.some.inj h)
    exact posted_refl target s
  · cases target with
    | advs1 => exact posted_retransmitAdvs .advs1 ha h
    | advs2 => exact posted_retransmitAdvs .advs2 ha h
    | stats => exact absurd rfl htarget

theorem posted_sendTo {env : Env ρ} {target : Target} {b : Bool} (ha : s.action = target.action)
    (h : sendTo env target s = some (t, b)) : Posted target s t b := by
  cases target with
  | advs1 => exact posted_doRetransmission .advs1 (by decide) ha h
  | advs2 => exact posted_doRetransmission .advs2 (by decide) ha h
  | stats => exact posted_statisticsDoSend ha h

theorem PostInv.mapAdvPost {f : AdvPostState → AdvPostState} (h : PostInv s)
    (hf : ∀ p, (f p).flagAsyncCommInProgress = p.flagAsyncCommInProgress) :
    PostInv (s.mapAdvPost f) :=
  h.of_same ⟨rfl, rfl, rfl, rfl, hf s.advPost⟩

/-- If an HTTP action is started the request in progress is the task's own and the action is
that of its target; if sending fails the action is "none". -/
theorem postInv_begun {env : Env ρ} (h : Quiet s) (hbegun : Begun env s t) : PostInv t := by
  cases hbegun with
  | nothing hclear => exact h.inv.mapAdvPost hclear
  | notSent hclear hsend =>
    rename_i target clear u
    have hposted := posted_sendTo rfl hsend
    obtain ⟨hreq, htask⟩ := hposted.failed rfl
    have hreq' : u.httpReq = s.httpReq := hreq
    have htask' : u.pTask = s.pTask ∨ s.httpReq = none := htask
    refine Quiet.inv ⟨hposted.log fun e he => h.log e he, fun r hr => ?_,
      fun x hx => h.notOwn x (hreq'.symm.trans hx), fun _ _ _ => Or.inr (Or.inl rfl)⟩
    have hr' : s.httpReq = some r := hreq'.symm.trans hr
    rcases htask' with ht | hnone
    · exact ht.trans (h.task r hr')
    · exact absurd (hnone.symm.trans hr') (by simp)
  | sent hsend =>
    rename_i target clear nonce u
    have hposted := posted_sendTo rfl hsend
    obtain ⟨-, hreq, htask⟩ := hposted.sent rfl
    refine ⟨hposted.log fun e he => h.log e he, fun r hr => ?_, fun x hx => ⟨rfl, ?_⟩,
      fun x hx => ?_⟩
    · obtain rfl := Option.some.inj (hreq.symm.trans hr)
      exact htask
    · obtain ⟨rfl, -⟩ := Request.mk.inj (Option.some.inj (hreq.symm.trans hx))
      exact hposted.action
    · have htaskEq := (Request.mk.inj (Option.some.inj (hreq.symm.trans hx))).2
      exact absurd htaskEq (by decide)
  | noSnapshot hclear => exact (h.withAction (Or.inl rfl)).inv.mapAdvPost hclear
  | snapshot => exact Quiet.inv ⟨h.log, h.task, h.notOwn, fun _ _ _ => Or.inr (Or.inr rfl)⟩

theorem postInv_startRequested {env : Env ρ} (h : Quiet s)
    (hstep : startRequested env s = some t) : PostInv t := by
  obtain ⟨rfl, -⟩ | ⟨u, hbegun, rfl⟩ := startRequested_cases hstep
  · exact h.inv
  · exact (postInv_begun h hbegun).of_same ⟨rfl, rfl, rfl, rfl, rfl⟩

/-! ## Polling and aborting -/

/-- A poll belongs to a request of the `adv_post` task: `http_async_poll` asserts that
the task which started the request polls it. -/
theorem postInv_httpAsyncPoll {env : Env ρ} {b : Bool} (h : PostInv s)
    (hstep : httpAsyncPoll env s = some (t, b)) :
    PostInv t ∧ t.action = s.action ∧ t.advPost = s.advPost ∧ (b = true → t.httpReq = none) := by
  obtain ⟨htask, u, hu, ht⟩ := httpAsyncPoll_cases hstep
  have hrecv : PostInv u ∧ u.action = s.action ∧ u.advPost = s.advPost := by
    rcases hu with ⟨-, rfl⟩ | ⟨⟨target, task⟩, hr, rfl⟩
    · exact ⟨h, rfl, rfl⟩
    · have hpoll : task = .advPost :=
        (Option.some.inj ((h.task _ hr).symm.trans htask))
      subst hpoll
      obtain ⟨hsame, hpost⟩ := recvHeaders_same target env.pollHeaders s
      obtain ⟨hreq, hpt⟩ := recvHeaders_samePost target env.pollHeaders s
      have hlog := h.log.recvHeaders (Or.inl (h.own target hr).2) env.pollHeaders
      refine ⟨⟨hlog, fun r' hr' => ?_, fun x hx => ?_, fun x hx hne => ?_⟩, hsame.action, hpost⟩
      · exact hpt.trans (h.task r' (hreq.symm.trans hr'))
      · have hown := h.own x (hreq.symm.trans hx)
        exact ⟨(congrArg AdvPostState.flagAsyncCommInProgress hpost).trans hown.1,
          hsame.action.trans hown.2⟩
      · exact hsame.action ▸ h.check x (hreq.symm.trans hx) hne
  obtain ⟨hinv, hact, hpost⟩ := hrecv
  rcases ht with ⟨-, rfl⟩ | ⟨hb, rfl⟩
  · exact ⟨⟨hinv.log, fun _ hr => absurd hr (by simp), fun _ hr => absurd hr (by simp),
      fun _ hr => absurd hr (by simp)⟩, hact, hpost, fun _ => rfl⟩
  · exact ⟨hinv, hact, hpost, fun hb' => absurd (hb.symm.trans hb') (by decide)⟩

theorem quiet_of_httpReq_none (hlog : AllAttributed s) (hreq : s.httpReq = none) : Quiet s where
  log := hlog
  task := fun _ hr => absurd (hreq.symm.trans hr) (by simp)
  notOwn := fun _ hr => absurd (hreq.symm.trans hr) (by simp)
  check := fun _ hr => absurd (hreq.symm.trans hr) (by simp)

theorem clearCompleted_post (s : State ρ) :
    (clearCompleted s).headerLog = s.headerLog ∧ (clearCompleted s).httpReq = s.httpReq := by
  unfold clearCompleted
  split <;> exact ⟨rfl, rfl⟩

/-- Polling an action: it goes on, or nothing of the task's own is in progress any more. -/
theorem postInv_inProgress {env : Env ρ} {b : Bool} (h : PostInv s)
    (hstep : inProgress env s = some (t, b)) :
    (b = true → Quiet t) ∧ (b = false → PostInv t) := by
  rcases inProgress_outcomes hstep with ⟨-, u, hu, ht⟩ | ⟨hm, reports, -, ht⟩
  · obtain ⟨hinv, -, -, hnone⟩ := postInv_httpAsyncPoll h hu
    rcases ht with ⟨rfl, rfl⟩ | ⟨rfl, rfl⟩
    · obtain ⟨hlog, hreq⟩ := clearCompleted_post u
      refine ⟨fun _ => quiet_of_httpReq_none ?_ (hreq.trans (hnone rfl)),
        fun hb => absurd hb (by decide)⟩
      exact fun e he => hinv.log e (hlog ▸ he)
    · exact ⟨fun hb => absurd hb (by decide), fun _ => hinv.of_same ⟨rfl, rfl, rfl, rfl, rfl⟩⟩
  · have hnot : ∀ target, s.httpReq ≠ some ⟨target, .advPost⟩ := by
      intro target hr
      have hact := (h.own target hr).2
      rw [hm] at hact
      cases target <;> exact absurd hact (by decide)
    have hq : Quiet s := ⟨h.log, h.task, hnot, h.check⟩
    rcases ht with ⟨rfl, rfl⟩ | ⟨rfl, rfl⟩
    · exact ⟨fun _ => ⟨hq.log, hq.task, hq.notOwn, hq.check⟩, fun hb => absurd hb (by decide)⟩
    · exact ⟨fun hb => absurd hb (by decide),
        fun _ => Quiet.inv ⟨hq.log, hq.task, hq.notOwn, hq.check⟩⟩

theorem postInv_doAsyncComm {env : Env ρ} (h : PostInv s)
    (hstep : doAsyncComm env s = some t) : PostInv t := by
  unfold doAsyncComm at hstep
  cases hp : s.advPost.flagAsyncCommInProgress with
  | false =>
    rw [hp, if_neg Bool.false_ne_true] at hstep
    exact postInv_startRequested (h.quiet hp) hstep
  | true =>
    rw [hp, if_pos rfl] at hstep
    split at hstep
    · exact absurd hstep (by simp)
    · rename_i u hu
      obtain rfl := Option.some.inj hstep
      exact (postInv_inProgress h hu).2 rfl
    · rename_i u hu
      have hq := (postInv_inProgress h hu).1 rfl
      exact postInv_startRequested (s := u.mapAdvPost _)
        ⟨hq.log, hq.task, hq.notOwn, hq.check⟩ hstep

theorem postInv_handleRelayingModeChanged (h : PostInv s)
    (hstep : handleRelayingModeChanged s = some t) : PostInv t := by
  simp only [handleRelayingModeChanged] at hstep
  split at hstep
  · obtain ⟨u, hu, rfl⟩ := Option.map_eq_some_iff.mp hstep
    unfold httpAbortAnyReqDuringProcessing at hu
    split at hu
    · exact absurd hu (by simp)
    · obtain rfl := Option.some.inj hu
      refine (quiet_of_httpReq_none ?_ rfl).inv
      exact fun e he => h.log e he
  · exact Option.some.inj hstep ▸ h.mapAdvPost fun _ => rfl

theorem postInv_request (h : PostInv s) (enabled : Bool) {set : AdvPostState → AdvPostState}
    (hset : ∀ p, (set p).flagAsyncCommInProgress = p.flagAsyncCommInProgress) :
    PostInv (request enabled set s) := by
  unfold request
  split
  · exact (h.mapAdvPost hset).of_same ⟨rfl, rfl, rfl, rfl, rfl⟩
  · exact h

theorem postInv_onGwCfgChange (env : Env ρ) (h : PostInv s) : PostInv (onGwCfgChange env s) := by
  have hsame : SamePost s (onGwCfgChange env s) := by
    simp only [onGwCfgChange]
    split
    · exact ⟨rfl, rfl, rfl, rfl, rfl⟩
    · split <;> exact ⟨rfl, rfl, rfl, rfl, rfl⟩
  exact h.of_same hsame

/-- One step of the `adv_post` task and its environment. -/
theorem PostInv.advPostStep {a : Act ρ} (h : PostInv s) (hstep : AsyncComm.step s a = some t) :
    PostInv t := by
  cases a with
  | handle sig env =>
    cases sig with
    | stop => exact Option.some.inj hstep ▸ h.mapAdvPost fun _ => rfl
    | networkDisconnected => exact Option.some.inj hstep ▸ h.mapAdvPost fun _ => rfl
    | networkConnected => exact Option.some.inj hstep ▸ h.mapAdvPost fun _ => rfl
    | timeSynchronized => exact Option.some.inj hstep ▸ h.mapAdvPost fun _ => rfl
    | retransmit => exact Option.some.inj hstep ▸ postInv_request h _ fun _ => rfl
    | retransmit2 => exact Option.some.inj hstep ▸ postInv_request h _ fun _ => rfl
    | retransmitMqtt => exact Option.some.inj hstep ▸ postInv_request h _ fun _ => rfl
    | sendStatistics => exact Option.some.inj hstep ▸ postInv_request h _ fun _ => rfl
    | doAsyncComm =>
      exact postInv_doAsyncComm (h.of_same (t := { s with sigDoAsyncComm := false })
        ⟨rfl, rfl, rfl, rfl, rfl⟩) hstep
    | relayingModeChanged => exact postInv_handleRelayingModeChanged h hstep
    | gwCfgReady => exact Option.some.inj hstep ▸ postInv_onGwCfgChange env h
    | gwCfgChangedRuuvi => exact Option.some.inj hstep ▸ postInv_onGwCfgChange env h
    | cfgModeDeactivated => exact Option.some.inj hstep ▸ postInv_onGwCfgChange env h
    | other => exact Option.some.inj hstep ▸ h
  | timerFires =>
    obtain ⟨-, rfl⟩ := Option.ite_some_none_eq_some.mp hstep
    exact h.of_same ⟨rfl, rfl, rfl, rfl, rfl⟩
  | setRelayingViaHttp enabled =>
    exact Option.some.inj hstep ▸ h.of_same ⟨rfl, rfl, rfl, rfl, rfl⟩
  | serverLock =>
    simp only [AsyncComm.step, httpServerMutexTryLock] at hstep
    obtain ⟨-, rfl⟩ := Option.ite_some_none_eq_some.mp hstep
    exact h.of_same ⟨rfl, rfl, rfl, rfl, rfl⟩
  | serverUnlock =>
    obtain ⟨-, rfl⟩ := Option.ite_some_none_eq_some.mp hstep
    exact h.of_same ⟨rfl, rfl, rfl, rfl, rfl⟩

/-! ## The checks -/

/-- A check that is sent: `http_send_advs_internal` has set the action of its target, and
a statistics check is clean. -/
theorem allAttributed_checkSent {target : Target} {outcome : SendOutcome} (hs : List Header)
    (h : PostInv s) (hhs : outcome.headers = hs)
    (hok : StatCheckClean s (.checkPost target outcome)) :
    AllAttributed (recvHeaders target hs
      (setAdvPostHttpAction target { s with pTask := some .httpServer })) := by
  have hlog : AllAttributed (setAdvPostHttpAction target { s with pTask := some .httpServer }) := by
    cases target <;> exact fun e he => h.log e he
  cases target with
  | advs1 => exact AllAttributed.recvHeaders hlog (Or.inl rfl) hs
  | advs2 => exact AllAttributed.recvHeaders hlog (Or.inl rfl) hs
  | stats =>
    simp only [StatCheckClean, statCheckMisattributed, hhs, Bool.and_eq_false_iff,
      Bool.not_eq_false'] at hok
    rcases hok with hinert | hact
    · exact AllAttributed.recvInert hlog hinert
    · exact AllAttributed.recvHeaders hlog (Action.fits_stats hact) hs

theorem postInv_checkPost {target : Target} {outcome : SendOutcome} (h : PostInv s)
    (hok : StatCheckClean s (.checkPost target outcome))
    (hstep : checkPost target outcome s = some t) : PostInv t := by
  unfold checkPost at hstep
  split at hstep
  · exact absurd hstep (by simp)
  obtain ⟨⟨u, b⟩, hpost, rfl⟩ := Option.map_eq_some_iff.mp hstep
  unfold httpPost at hpost
  split at hpost
  · exact absurd hpost (by simp)
  rename_i hreq
  have hnone : s.httpReq = none := by simpa using hreq
  have hset : (setAdvPostHttpAction target { s with pTask := some Task.httpServer }).httpReq =
        s.httpReq ∧
      (setAdvPostHttpAction target { s with pTask := some Task.httpServer }).pTask =
        some .httpServer := by
    cases target <;> exact ⟨rfl, rfl⟩
  cases outcome with
  | failed =>
    obtain ⟨rfl, -⟩ := Prod.mk.inj (Option.some.inj hpost)
    exact (quiet_of_httpReq_none (s := { s with pTask := some .httpServer })
      (fun e he => h.log e he) hnone).inv
  | sendFailed hs =>
    obtain ⟨rfl, -⟩ := Prod.mk.inj (Option.some.inj hpost)
    obtain ⟨hr, -⟩ := recvHeaders_samePost target hs
      (setAdvPostHttpAction target { s with pTask := some .httpServer })
    exact (quiet_of_httpReq_none (allAttributed_checkSent hs h rfl hok)
      (hr.trans (hset.1.trans hnone))).inv
  | inProgress hs =>
    obtain ⟨rfl, -⟩ := Prod.mk.inj (Option.some.inj hpost)
    have hlog := allAttributed_checkSent hs h rfl hok
    obtain ⟨-, hp⟩ := recvHeaders_samePost target hs
      (setAdvPostHttpAction target { s with pTask := some .httpServer })
    obtain ⟨hsame, -⟩ := recvHeaders_same target hs
      (setAdvPostHttpAction target { s with pTask := some .httpServer })
    refine ⟨fun e he => hlog e he, fun r hr => ?_, fun x hx => ?_, fun x hx hne => ?_⟩
    · obtain rfl := Option.some.inj hr
      exact hp.trans hset.2
    · have := (Request.mk.inj (Option.some.inj hx)).2
      exact absurd this (by decide)
    · obtain ⟨rfl, -⟩ := Request.mk.inj (Option.some.inj hx)
      refine Or.inl (hsame.action.trans ?_)
      cases target with
      | advs1 => rfl
      | advs2 => rfl
      | stats => exact absurd rfl hne

theorem postInv_checkHeader {target : Target} {x : Header} (h : PostInv s)
    (hreq : s.httpReq = some ⟨target, .httpServer⟩) (hok : StatCheckClean s (.checkHeader x)) :
    PostInv (recvHeader target s x) := by
  have hlog : AllAttributed (recvHeaders target [x] s) := by
    by_cases hstats : target = .stats
    · subst hstats
      simp only [StatCheckClean, statCheckMisattributed, hreq, decide_true, Bool.true_and,
        Bool.and_eq_false_iff, Bool.not_eq_false'] at hok
      rcases hok with hinert | hact
      · exact h.log.recvInert (by simp [hinert])
      · exact h.log.recvHeaders (Action.fits_stats hact) [x]
    · exact h.log.recvHeaders (h.check target hreq hstats) [x]
  exact ⟨hlog, h.task, h.own, h.check⟩

/-- **One step keeps the attribution**, if no header of a statistics check is
misattributed. -/
theorem PostInv.step {a : PostAct ρ} (h : PostInv s) (hok : StatCheckClean s a)
    (hstep : postStep s a = some t) : PostInv t := by
  cases a with
  | advPost a => exact h.advPostStep hstep
  | checkPost target outcome => exact postInv_checkPost h hok hstep
  | checkHeader x =>
    simp only [postStep] at hstep
    split at hstep
    · rename_i target hreq
      exact Option.some.inj hstep ▸ postInv_checkHeader h hreq hok
    · exact absurd hstep (by simp)
  | checkDone =>
    simp only [postStep] at hstep
    split at hstep
    · obtain rfl := Option.some.inj hstep
      refine (quiet_of_httpReq_none ?_ rfl).inv
      exact fun e he => h.log e he
    · exact absurd hstep (by simp)

/-! ## Runs -/

/-- **Attribution in every run whose statistics checks are clean.** -/
theorem attributed_of_statCheckClean {s : State ρ}
    (h : (postSystem ρ).ReachableVia StatCheckClean s) : AllAttributed s := by
  have hinv : PostInv s := by
    refine h.invariant (P := PostInv) ?_ fun u a v _ hu hok hstep => hu.step hok hstep
    rintro u ⟨nonce, creds, rfl⟩
    exact ⟨fun e he => absurd he (by simp [init]), fun _ hr => absurd hr (by simp [init]),
      fun _ hr => absurd hr (by simp [init]), fun _ hr => absurd hr (by simp [init])⟩
  exact hinv.log

/-- A custom target is checked and answers with a new key, and then the statistics target
answers its check with a new rate. -/
def checkRun (statHeader : Header) : List (PostAct Unit) :=
  [.advPost (.setRelayingViaHttp false),
    .checkPost .advs1 (.inProgress []), .checkHeader (.ruuviHmacKey "new"), .checkDone,
    .checkPost .stats (.inProgress []), .checkHeader statHeader, .checkDone]

theorem attributed_of_checkRun :
    ∃ s : State Unit, decide (s.creds.keyRuuvi = "new" ∧ s.headerLog.length = 2) = true ∧
      AllAttributed s := by
  obtain ⟨s, hs, hp⟩ := System.exists_reachableVia_of_run (S := postSystem Unit)
    (C := StatCheckClean) ⟨0, ⟨"a", "b", "c", 10000, 10000⟩, rfl⟩ (checkRun .other)
    (fun s => decide (s.creds.keyRuuvi = "new" ∧ s.headerLog.length = 2)) (by decide)
  exact ⟨s, hp, attributed_of_statCheckClean hs⟩

/-- **The statistics target can replace the key of the Ruuvi target.** -/
theorem statCheck_changes_ruuvi_key :
    ¬ ∀ s, (postSystem Unit).Reachable s → AllAttributed s := by
  intro hall
  obtain ⟨s, hs, hp⟩ := System.exists_reachable_of_run (S := postSystem Unit)
    ⟨0, ⟨"a", "b", "c", 10000, 10000⟩, rfl⟩ (checkRun (.ruuviHmacKey "stolen"))
    (fun s => s.headerLog.any fun e =>
      decide (e.target = .stats ∧ e.before.key .advs1 = "new" ∧ e.after.key .advs1 = "stolen"))
    (by decide)
  obtain ⟨e, he, hq⟩ := List.any_eq_true.mp hp
  obtain ⟨htarget, hbefore, hafter⟩ := of_decide_eq_true hq
  have hne : e.after.key .advs1 ≠ e.before.key .advs1 := by
    rw [hbefore, hafter]
    decide
  exact absurd (((hall s hs) e he).key .advs1 hne).1 (by rw [htarget]; decide)

end AsyncComm
end RuuviGateway
