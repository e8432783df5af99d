import XrdClPelican.Requests

/-!
The handles of the worker's pool. The options a request sets stay on the handle when the
operation lets it go, unless the `ReleaseHandle` of its class clears them. Each class clears
what it may have set (`RequestTidy`): the stat its `NOBODY`, and its `PROPFIND` when
`m_is_propfind` says it set one; the read its header list; the listing its method and header
list. With the certificate, which every `ReleaseHandle` clears, and the options every `Setup`
overwrites, a handle goes back to the pool as it came out of it, the broker hooks apart: the
next `Setup` on it does what it does on a fresh handle carrying those hooks.
-/

namespace XrdClPelican

open Op

/-- A handle without request options, as curl creates it. -/
def CurlHandle.RequestClean (h : CurlHandle) : Prop :=
  h.customRequest = none ∧ h.noBody = false ∧ h.httpHeader = none

instance : DecidablePred CurlHandle.RequestClean := fun _ =>
  inferInstanceAs (Decidable (_ ∧ _ ∧ _))

def Event.setupClean : Event → Bool
  | .setup (some h) .. => decide h.RequestClean
  | _ => true

/-- The handle carries each request option only where its class's `ReleaseHandle` clears it. -/
def Op.RequestTidy (s : Op) : Prop :=
  ∀ c ∈ s.curl,
    (c.customRequest = none ∨ s.kind = .listdirOp ∨ s.kind.isStat ∧ s.isPropfind) ∧
    (c.noBody = false ∨ s.kind.isStat) ∧ (c.httpHeader = none ∨ s.kind.isStat = false)

lemma Constructed.requestTidy {E : Env} {s : Op} (h : Constructed E s) : s.RequestTidy := by
  cases h <;> exact fun _ hc => by cases hc

lemma releaseHandle_none {s : Op} (hc : s.curl = none) : s.releaseHandle.2 = none := by
  cases hk : s.kind <;> simp [Op.releaseHandle, hk, CurlStatOp.releaseHandle,
    CurlOpenOp.releaseHandle, CurlReadOp.releaseHandle, CurlListdirOp.releaseHandle,
    clearBrokerHooks, setopt, hc]

lemma releaseHandle_clean {s : Op} (ht : s.RequestTidy) :
    ∀ c ∈ s.releaseHandle.2, c.RequestClean := by
  intro c' hc'
  rcases hc : s.curl with _ | c
  · rw [releaseHandle_none hc] at hc'; cases hc'
  obtain ⟨hcr, hnb, hhh⟩ := ht c hc
  cases hk : s.kind <;> cases hp : s.isPropfind <;>
    simp [Op.releaseHandle, hk, hp, CurlStatOp.releaseHandle, CurlOpenOp.releaseHandle,
      CurlReadOp.releaseHandle, CurlListdirOp.releaseHandle, CurlOperation.releaseHandle,
      clearBrokerHooks, setopt, hc, Kind.isStat] at hc' hcr hnb hhh <;>
    subst hc' <;> simp [CurlHandle.RequestClean, hcr, hnb, hhh]

section Tidy

variable (E : Env) (s : Op) (useX509 : Bool) (certKey : String × String)

lemma Op.RequestTidy.of_handle {s x : Op} (ht : s.RequestTidy) (hc : x.curl = s.curl)
    (hk : x.kind = s.kind) (hp : x.isPropfind = s.isPropfind) : x.RequestTidy := by
  rw [RequestTidy, hc, hk, hp]; exact ht

lemma requestTidy_virtualSuccess (x : Op) :
    (CurlReadOp.virtualSuccess E x).RequestTidy ↔ x.RequestTidy := by
  unfold CurlReadOp.virtualSuccess CurlPgReadOp.success CurlReadOp.success
  dsimp only; split_ifs <;> rfl

lemma setup_tidy (ht : s.RequestTidy) (curl : Option CurlHandle) (now : Option Timespec)
    (hc : ∀ h ∈ curl, h.RequestClean) (s₁ : Op)
    (hs : (s.setup E curl now useX509 certKey).state = some s₁) : s₁.RequestTidy := by
  rcases hb : CurlOperation.setup curl now useX509 certKey s with e | x
  · -- a `Setup` that throws leaves the operation as it was
    have : s = s₁ := by
      cases hk : s.kind <;> simpa [Op.setup, hk, CurlReadOp.setup, CurlStatOp.setup,
        CurlListdirOp.setup, Op.setupRet, hb, bind, Except.bind] using hs
    exact this ▸ ht
  rcases curl with _ | h <;> rcases now with _ | now <;> try cases hb
  obtain ⟨cr, nb, hh⟩ := hc h rfl
  obtain ⟨c, hcx, -, hreq, hnb, -, hpf⟩ := baseSetup_handle s h now useX509 certKey x hb
  have hkx := (setup_sameCore s useX509 certKey hb).kind
  simp only [CurlHandle.requestOpts, Prod.mk.injEq] at hreq
  cases hk : s.kind <;> simp only [Op.setup, hk, CurlReadOp.setup, CurlStatOp.setup,
      CurlListdirOp.setup, Op.setupRet, hb, bind, Except.bind, pure, Except.pure] at hs
  all_goals
    (try split_ifs at hs) <;> simp only [Ret.state_ok, Option.some.injEq] at hs <;> subst hs
  all_goals
    try rw [requestTidy_virtualSuccess]
    intro c' hc'
    simp only [setopt, hcx, Option.map_some', Option.mem_def, Option.some.injEq] at hc'
    subst hc'
    simp_all [Kind.isStat]

lemma redirect_tidy (ht : s.RequestTidy) (err : Option String) :
    (s.redirect E err).1.RequestTidy := by
  have k : s.KeepsMethod (CurlOperation.redirect E err s).1 := .redirect E err
  have hr := baseRedirect_requestOpts E s err
  unfold Op.redirect CurlStatOp.redirect
  generalize CurlOperation.redirect E err s = p at k hr
  obtain ⟨s₁, b⟩ := p
  dsimp only at k hr ⊢
  have h₁ : s₁.RequestTidy := by
    intro c₁ hc₁
    rcases hc : s.curl with _ | c
    · have := k.opts; rw [hc, Option.mem_def.mp hc₁] at this; cases this
    have e₁ := k.opts
    rw [hc, Option.mem_def.mp hc₁] at e₁ hr
    simp only [CurlHandle.methodOpts, CurlHandle.requestOpts, Option.map_some', Option.some.injEq,
      Prod.mk.injEq] at e₁ hr
    rw [k.kind, k.isPropfind, e₁.1, e₁.2, hr.2]
    exact ht c hc
  split_ifs with hs hp
  all_goals try exact h₁
  all_goals
    intro c' hc'
    simp only [setopt, Option.map_eq_some', Option.mem_def] at hc'
    obtain ⟨c₁, hc₁, rfl⟩ := hc'
    have := h₁ c₁ hc₁
    have := k.kind
    simp_all

lemma tidy_step (ht : s.RequestTidy) (e : Event) (he : e.setupClean) (s' : Op)
    (h : (s.step E e).state = some s') : s'.RequestTidy := by
  cases e
  case setup curl now u ck =>
    refine setup_tidy E s u ck ht curl now (fun c hc => ?_) s' h
    rw [Option.mem_def.mp hc] at he
    exact of_decide_eq_true he
  case redirect err =>
    simp only [Op.step, Ret.state_ok, Option.some.injEq] at h
    exact h ▸ redirect_tidy E s ht err
  case releaseHandle =>
    simp only [Op.step, Ret.state_ok, Option.some.injEq] at h
    intro c hc
    rw [← h, (releaseHandle_session s).2.2.2] at hc
    cases hc
  all_goals
    obtain ⟨hc, hp⟩ := step_handle E s _ (by exact rfl) (by exact fun _ => nofun) s' h
    exact ht.of_handle hc (step_kind E s s' _ h) hp

lemma tidy_run (ht : s.RequestTidy) (es : List Event) (hes : ∀ e ∈ es, e.setupClean) (s' : Op)
    (h : s.run E es = some s') : s'.RequestTidy := by
  induction es generalizing s with
  | nil => cases h; exact ht
  | cons e es ih =>
    rw [run_cons] at h
    rcases hs : (s.step E e).state with _ | s₁ <;> rw [hs] at h
    · cases h
    · exact ih s₁ (tidy_step E s ht e (hes e (List.mem_cons_self _ _)) s₁ hs)
        (fun e' he' => hes e' (List.mem_cons_of_mem _ he')) h

end Tidy

/-- **Handles go back to the pool clean.** Along every run, the handle `ReleaseHandle` gives back
has no custom method, no `NOBODY` and no header list. -/
theorem released_handle_request_clean (E : Env) (s₀ : Op) (h₀ : Constructed E s₀)
    (es : List Event) (hes : ∀ e ∈ es, e.setupClean) (s : Op) (hs : s₀.run E es = some s) :
    ∀ c ∈ s.releaseHandle.2, c.RequestClean :=
  releaseHandle_clean (tidy_run E s₀ h₀.requestTidy es hes s hs)

def propfindAfterRedirect : Op :=
  (propfindStat.run demoEnv (demoSetup :: plainRedirect)).getD propfindStat

theorem released_handle_request_clean_propfind :
    Constructed demoEnv propfindStat ∧ (∀ e ∈ demoSetup :: plainRedirect, e.setupClean) ∧
    propfindStat.run demoEnv (demoSetup :: plainRedirect) = some propfindAfterRedirect ∧
    ∀ c ∈ propfindAfterRedirect.releaseHandle.2, c.RequestClean :=
  have h₀ : Constructed demoEnv propfindStat := .stat 1 true _ ⟨0, 0⟩ true true false
  ⟨h₀, by decide, rfl, released_handle_request_clean demoEnv propfindStat h₀
    (demoSetup :: plainRedirect) (by decide) propfindAfterRedirect rfl⟩

example : propfindAfterRedirect.curl.map CurlHandle.customRequest = some (some "PROPFIND") := rfl

/-! ### A released handle is a fresh one -/

def CurlHandle.withBrokerHooks (h : CurlHandle)
    (b : Option Callback × Option Nat × Option Callback × Option Nat) : CurlHandle :=
  { h with
    openSocketFunction := b.1, openSocketData := b.2.1, sockOptFunction := b.2.2.1,
    sockOptData := b.2.2.2 }

@[simp] lemma CurlHandle.withBrokerHooks_brokerHooks (h : CurlHandle)
    (b : Option Callback × Option Nat × Option Callback × Option Nat) :
    (h.withBrokerHooks b).brokerHooks = b := rfl

lemma baseSetup_congr (h₁ h₂ : CurlHandle) (hr : h₁.requestOpts = h₂.requestOpts)
    (hn : h₁.noBody = h₂.noBody) (hc : h₁.certOpts = h₂.certOpts)
    (hb : h₁.brokerHooks = h₂.brokerHooks) (now : Option Timespec) (useX509 : Bool)
    (certKey : String × String) (s : Op) :
    CurlOperation.setup (some h₁) now useX509 certKey s =
      CurlOperation.setup (some h₂) now useX509 certKey s := by
  obtain ⟨_, _, _, _, _, _, _, _, _, _, _, _, _, _, _, _, _⟩ := h₁
  obtain ⟨_, _, _, _, _, _, _, _, _, _, _, _, _, _, _, _, _⟩ := h₂
  simp only [CurlHandle.requestOpts, CurlHandle.certOpts, CurlHandle.brokerHooks,
    Prod.mk.injEq] at hr hn hc hb
  obtain ⟨rfl, rfl⟩ := hr
  obtain ⟨rfl, rfl⟩ := hc
  obtain ⟨rfl, rfl, rfl, rfl⟩ := hb
  subst hn
  rcases now with _ | now <;> rfl

lemma setup_congr (E : Env) (h₁ h₂ : CurlHandle) (hr : h₁.requestOpts = h₂.requestOpts)
    (hn : h₁.noBody = h₂.noBody) (hc : h₁.certOpts = h₂.certOpts)
    (hb : h₁.brokerHooks = h₂.brokerHooks) (now : Option Timespec) (useX509 : Bool)
    (certKey : String × String) (t : Op) :
    t.setup E (some h₁) now useX509 certKey = t.setup E (some h₂) now useX509 certKey := by
  simp only [Op.setup, CurlReadOp.setup, CurlStatOp.setup, CurlListdirOp.setup,
    baseSetup_congr h₁ h₂ hr hn hc hb]

/-- **A released handle is a fresh one, its broker hooks apart.** `Setup` on it does what it does on
a fresh handle carrying those hooks. -/
theorem released_handle_as_fresh (E : Env) (s₀ : Op) (h₀ : Constructed E s₀) (es : List Event)
    (hes : ∀ e ∈ es, e.setupClean) (s : Op) (hs : s₀.run E es = some s) (h' : CurlHandle)
    (hr : s.releaseHandle.2 = some h') (t : Op) (now : Option Timespec) (useX509 : Bool)
    (certKey : String × String) :
    t.setup E (some h') now useX509 certKey =
      t.setup E (some (CurlHandle.fresh.withBrokerHooks h'.brokerHooks)) now useX509 certKey ∧
    (s.kind.keepsBrokerHooks = false →
      t.setup E (some h') now useX509 certKey =
        t.setup E (some CurlHandle.fresh) now useX509 certKey) := by
  obtain ⟨hcr, hnb, hhh⟩ := releaseHandle_clean (tidy_run E s₀ h₀.requestTidy es hes s hs) h' hr
  have hfresh : t.setup E (some h') now useX509 certKey =
      t.setup E (some (CurlHandle.fresh.withBrokerHooks h'.brokerHooks)) now useX509 certKey := by
    refine setup_congr E h' (CurlHandle.fresh.withBrokerHooks h'.brokerHooks) ?_ hnb
      (releaseHandle_certs s h' hr) rfl now useX509 certKey t
    simp only [CurlHandle.requestOpts, hcr, hhh]; rfl
  refine ⟨hfresh, fun hk => ?_⟩
  obtain ⟨c, hc⟩ : ∃ c, s.curl = some c := by
    rcases hc : s.curl with _ | c
    · rw [releaseHandle_none hc] at hr; cases hr
    · exact ⟨c, rfl⟩
  have hh := releaseHandle_brokerHooks s c hc
  rw [hr, hk, Option.map_some', if_neg Bool.false_ne_true, Option.some.injEq] at hh
  rw [hfresh, hh]
  rfl

def brokeredStat : Op := (propfindStat.run demoEnv (demoSetup :: brokerRedirect)).getD propfindStat

def brokeredReleased : CurlHandle := brokeredStat.releaseHandle.2.getD CurlHandle.fresh

theorem released_handle_as_fresh_brokered :
    Constructed demoEnv propfindStat ∧ (∀ e ∈ demoSetup :: brokerRedirect, e.setupClean) ∧
    propfindStat.run demoEnv (demoSetup :: brokerRedirect) = some brokeredStat ∧
    brokeredStat.releaseHandle.2 = some brokeredReleased ∧
    demoRead.setup demoEnv (some brokeredReleased) (some ⟨200, 0⟩) false ("", "") =
      demoRead.setup demoEnv (some (CurlHandle.fresh.withBrokerHooks brokeredReleased.brokerHooks))
        (some ⟨200, 0⟩) false ("", "") :=
  have h₀ : Constructed demoEnv propfindStat := .stat 1 true _ ⟨0, 0⟩ true true false
  ⟨h₀, by decide, rfl, rfl, (released_handle_as_fresh demoEnv propfindStat h₀
    (demoSetup :: brokerRedirect) (by decide) brokeredStat rfl brokeredReleased rfl demoRead
    (some ⟨200, 0⟩) false ("", "")).1⟩

example : brokeredReleased.brokerHooks =
    (some .openSocketCallback, some 1, some .sockOptCallback, some 1) := rfl

end XrdClPelican
