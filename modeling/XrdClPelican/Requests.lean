import XrdClPelican.Session
import XrdClPelican.Headers
import XrdClPelican.RangeHeader
import XrdClPelican.Broker
import XrdClPelican.StatMethod

/-!
Where the requests curl makes for an operation go, and what they ask for. `Setup` points the
handle at `m_url`, and `CurlOperation::Redirect` points it at the `Location` of the response
when there is one; no other call touches `CURLOPT_URL`. So between `Setup` and `ReleaseHandle`,
whatever the driver calls in whatever order, the handle asks for the target the redirects along
the way name (`targetAfter`), and that is the `LastURL` an open reports.

`Redirect` keeps the method and the header list of the handle for every class but the stat
(`CurlStatOp::Redirect` sets its own method), so every request of a read carries its `Range`
line, and every request of a listing is a `PROPFIND` with `Depth: 1`, however many times the
servers redirect it.
-/

namespace XrdClPelican

/-- The calls that keep the operation's handle: all but `Setup` and `ReleaseHandle`. -/
def Event.keepsHandle : Event → Bool
  | .setup .. | .releaseHandle => false
  | _ => true

def CurlHandle.requestOpts (h : CurlHandle) : Option String × Option (List String) :=
  (h.customRequest, h.httpHeader)

/-- What a call does to a value the last redirect reads off its response. -/
def redirectStep {α : Type} (f : HeaderParser → α) (h : HeaderParser) (a : α) : Event → α
  | .redirect _ => if h.location.isEmpty then a else f h
  | _ => a

def redirectAfter {α : Type} (E : Env) (f : HeaderParser → α) (h : HeaderParser) (a : α) :
    List Event → α
  | [] => a
  | e :: es => redirectAfter E f (headersStep E h e) (redirectStep f h a e) es

/-- The target of the requests after a run: the location of the last redirect that found one. -/
def targetAfter (E : Env) (h : HeaderParser) (u : Option String) (es : List Event) :
    Option String :=
  redirectAfter E (fun h => some h.location) h u es

lemma redirectStep_eq {α : Type} (f : HeaderParser → α) (h : HeaderParser) (a : α) {e : Event}
    (hr : ∀ err, e ≠ .redirect err) : redirectStep f h a e = a := by
  cases e <;> first | rfl | exact absurd rfl (hr _)

lemma redirectAfter_map {α β : Type} (E : Env) (g : α → β) (f : HeaderParser → α)
    (h : HeaderParser) (a : α) (es : List Event) :
    redirectAfter E (fun h => g (f h)) h (g a) es = g (redirectAfter E f h a es) := by
  induction es generalizing h a with
  | nil => rfl
  | cons e es ih =>
    have hs : redirectStep (fun h => g (f h)) h (g a) e = g (redirectStep f h a e) := by
      cases e <;> simp only [redirectStep]
      split_ifs <;> rfl
    simp only [redirectAfter, hs, ih]

open Op

/-! ### One call -/

section Calls

variable (E : Env) (s : Op)

@[simp] lemma Op.fail_curl (c : UInt16) (n : UInt32) (m : String) :
    (s.fail c n m).curl = s.curl := by
  rw [fail_eq_deliver]; rfl

@[simp] lemma Op.setopt_isPropfind (f : CurlHandle → CurlHandle) (s : Op) :
    (s.setopt f).isPropfind = s.isPropfind := rfl

lemma setopt_map {α : Type} (π : CurlHandle → α) (f : CurlHandle → CurlHandle)
    (hf : ∀ h, π (f h) = π h) : (s.setopt f).curl.map π = s.curl.map π := by
  rw [setopt_curl, Option.map_map]; exact congrArg (s.curl.map ·) (funext hf)

lemma redirectTo_url (location : String) :
    (s.redirectTo E location).curl.map CurlHandle.url = s.curl.map fun _ => some location := by
  unfold redirectTo
  dsimp only [setopt]
  split_ifs <;> simp [Option.map_map, Function.comp_def]

lemma redirectTo_requestOpts (location : String) :
    (s.redirectTo E location).curl.map CurlHandle.requestOpts =
      s.curl.map CurlHandle.requestOpts := by
  unfold redirectTo
  dsimp only [setopt]
  split_ifs <;> simp only [Option.map_map] <;> rfl

lemma redirect_url (err : Option String) :
    (s.redirect E err).1.curl.map CurlHandle.url =
      (s.curl.map CurlHandle.url).map
        (redirectStep (fun h => some h.location) s.headers · (.redirect err)) := by
  have h₀ : (CurlOperation.redirect E err s).1.curl.map CurlHandle.url =
      (s.curl.map CurlHandle.url).map
        (redirectStep (fun h => some h.location) s.headers · (.redirect err)) := by
    unfold CurlOperation.redirect redirectStep
    dsimp only
    split_ifs with hl
    · simp [hl]; rfl
    · rw [redirectTo_url]; simp [hl, Option.map_map, Function.comp_def]
    · split
      · rw [Op.fail_curl, redirectTo_url]; simp [hl, Option.map_map, Function.comp_def]
      · rw [setBrokerHooks, setopt_map _ _ _ (by intro; rfl), redirectTo_url]
        simp [hl, Option.map_map, Function.comp_def]
  unfold Op.redirect CurlStatOp.redirect
  split_ifs
  · -- the stat's method options leave the URL alone
    rw [← h₀]
    generalize CurlOperation.redirect E err s = r
    obtain ⟨s₁, b⟩ := r
    dsimp only
    split_ifs <;> exact setopt_map _ _ _ (by intro; rfl)
  · exact h₀

lemma baseRedirect_requestOpts (err : Option String) :
    (CurlOperation.redirect E err s).1.curl.map CurlHandle.requestOpts =
      s.curl.map CurlHandle.requestOpts := by
  unfold CurlOperation.redirect
  dsimp only
  split_ifs
  · simp
  · exact redirectTo_requestOpts E _ _
  · split
    · rw [Op.fail_curl]; exact redirectTo_requestOpts E _ _
    · rw [setBrokerHooks, setopt_map _ _ _ (by intro; rfl)]; exact redirectTo_requestOpts E _ _

lemma redirect_requestOpts (hk : s.kind.isStat = false) (err : Option String) :
    (s.redirect E err).1.curl.map CurlHandle.requestOpts = s.curl.map CurlHandle.requestOpts := by
  simp only [Op.redirect, hk, Bool.false_eq_true, if_false]
  exact baseRedirect_requestOpts E s err

lemma Op.SameHandle.handle {x : Op} (k : SameHandle s x) :
    x.curl = s.curl ∧ x.isPropfind = s.isPropfind :=
  ⟨k.curl, k.isPropfind⟩

lemma headerTimeoutExpired_handle (now : Option Timespec) :
    (CurlOperation.headerTimeoutExpired now s).1.curl = s.curl ∧
      (CurlOperation.headerTimeoutExpired now s).1.isPropfind = s.isPropfind := by
  rcases headerTimeoutExpired_fst s now with h | ⟨-, h⟩ <;> rw [h] <;> exact ⟨rfl, rfl⟩

lemma step_handle (e : Event) (he : e.keepsHandle) (hr : ∀ err, e ≠ .redirect err) (s' : Op)
    (h : (s.step E e).state = some s') : s'.curl = s.curl ∧ s'.isPropfind = s.isPropfind := by
  cases e <;> simp only [Op.step, Ret.state_ok, Option.some.injEq, Event.keepsHandle,
    Bool.false_eq_true] at h he
  case startBroker => exact (startBroker_session E s _ s' (by simpa using h)).handle
  case success => exact (success_session E s _ s' h).handle
  case redirect err => exact absurd rfl (hr err)
  all_goals subst h
  case setBrokerUrl => exact ⟨rfl, rfl⟩
  case header line => exact (header_session E s line).handle
  case write => exact (write_session E s _).handle
  case waitSocketCallback => exact (waitSocket_session s _).handle
  case openSocket => exact (openSocket_session s).handle
  case progress => exact headerTimeoutExpired_handle s _
  case fail => exact (SameHandle.fail (.refl s) _ _ _).handle

lemma url_step (e : Event) (he : e.keepsHandle) (s' : Op) (h : (s.step E e).state = some s') :
    s'.curl.map CurlHandle.url = (s.curl.map CurlHandle.url).map
      (redirectStep (fun h => some h.location) s.headers · e) := by
  by_cases hr : ∃ err, e = .redirect err
  · obtain ⟨err, rfl⟩ := hr
    simp only [Op.step, Ret.state_ok, Option.some.injEq] at h
    rw [← h]; exact redirect_url E s err
  · push_neg at hr
    rw [(step_handle E s e he hr s' h).1]
    simp only [redirectStep_eq _ _ _ hr, Option.map_id']

lemma requestOpts_step (hk : s.kind.isStat = false) (e : Event) (he : e.keepsHandle) (s' : Op)
    (h : (s.step E e).state = some s') :
    s'.curl.map CurlHandle.requestOpts = s.curl.map CurlHandle.requestOpts := by
  by_cases hr : ∃ err, e = .redirect err
  · obtain ⟨err, rfl⟩ := hr
    simp only [Op.step, Ret.state_ok, Option.some.injEq] at h
    rw [← h]; exact redirect_requestOpts E s hk err
  · push_neg at hr
    rw [(step_handle E s e he hr s' h).1]

end Calls

/-! ### Runs -/

section Runs

variable (E : Env) (s : Op)

lemma url_run (es : List Event) (hes : ∀ e ∈ es, e.keepsHandle) (s' : Op)
    (h : s.run E es = some s') :
    s'.curl.map CurlHandle.url =
      (s.curl.map CurlHandle.url).map (targetAfter E s.headers · es) := by
  induction es generalizing s with
  | nil => cases h; simp only [targetAfter, redirectAfter, Option.map_id']
  | cons e es ih =>
    rw [run_cons] at h
    rcases hs : (s.step E e).state with _ | s₁ <;> rw [hs] at h
    · cases h
    · rw [ih s₁ (fun e' he' => hes e' (List.mem_cons_of_mem _ he')) h,
        url_step E s e (hes e (List.mem_cons_self _ _)) s₁ hs, headers_step E s s₁ e hs,
        Option.map_map]
      rfl

lemma requestOpts_run (hk : s.kind.isStat = false) (es : List Event)
    (hes : ∀ e ∈ es, e.keepsHandle) (s' : Op) (h : s.run E es = some s') :
    s'.curl.map CurlHandle.requestOpts = s.curl.map CurlHandle.requestOpts := by
  induction es generalizing s with
  | nil => cases h; rfl
  | cons e es ih =>
    rw [run_cons] at h
    rcases hs : (s.step E e).state with _ | s₁ <;> rw [hs] at h
    · cases h
    · rw [ih s₁ (by rw [step_kind E s s₁ e hs]; exact hk)
        (fun e' he' => hes e' (List.mem_cons_of_mem _ he')) h,
        requestOpts_step E s hk e (hes e (List.mem_cons_self _ _)) s₁ hs]

end Runs

/-! ### Setup -/

section Setup

variable (E : Env) (s : Op) (h : CurlHandle) (now : Timespec) (useX509 : Bool)
  (certKey : String × String)

lemma baseSetup_handle (x : Op)
    (hs : CurlOperation.setup (some h) (some now) useX509 certKey s = .ok x) :
    ∃ c, x.curl = some c ∧ c.url = some s.url ∧ c.requestOpts = h.requestOpts ∧
      c.noBody = h.noBody ∧ x.headerList = s.headerList ∧ x.isPropfind = s.isPropfind := by
  unfold CurlOperation.setup at hs
  dsimp only at hs
  split_ifs at hs <;> cases hs <;> exact ⟨_, rfl, rfl, rfl, rfl, rfl, rfl⟩

lemma setup_url (s₁ : Op) (hs : s.setup E (some h) (some now) useX509 certKey = .ok () s₁) :
    s₁.curl.map CurlHandle.url = some (some s.url) := by
  rcases hb : CurlOperation.setup (some h) (some now) useX509 certKey s with e | x <;>
    cases hk : s.kind <;> simp only [Op.setup, hk, CurlReadOp.setup, CurlStatOp.setup,
      CurlListdirOp.setup, Op.setupRet, hb, bind, Except.bind, pure, Except.pure] at hs
  iterate 5 cases hs
  all_goals
    obtain ⟨c, hc, hu, -⟩ := baseSetup_handle s h now useX509 certKey x hb
    first
    | (cases hs; simp [Op.setopt, hc, hu])
    | (split_ifs at hs <;> cases hs <;> simp [Op.setopt, hc, hu])

lemma setup_listdir (hk : s.kind = .listdirOp) (s₁ : Op)
    (hs : s.setup E (some h) (some now) useX509 certKey = .ok () s₁) :
    s₁.curl.map CurlHandle.requestOpts =
      some (some "PROPFIND", some (s.headerList ++ ["Depth: 1"])) := by
  rcases hb : CurlOperation.setup (some h) (some now) useX509 certKey s with e | x <;>
    simp only [Op.setup, hk, CurlListdirOp.setup, Op.setupRet, hb, bind, Except.bind, pure,
      Except.pure] at hs <;> cases hs
  obtain ⟨c, hc, -, -, -, hl, -⟩ := baseSetup_handle s h now useX509 certKey x hb
  simp [Op.setopt, hc, hl, CurlHandle.requestOpts]

lemma setup_step (s₁ : Op) (hs : s.setup E (some h) (some now) useX509 certKey = .ok () s₁) :
    (s.step E (.setup (some h) (some now) useX509 certKey)).state = some s₁ := by
  simp only [Op.step, hs, Ret.state_ok]

end Setup

/-! ### Requests across redirects -/

/-- **Every request goes where the last redirect pointed.** The handle's URL is `targetAfter` of the
run, and an open reports it as `LastURL` through `CURLINFO_EFFECTIVE_URL`. -/
theorem requests_follow_redirects (E : Env) (s₀ s₁ s : Op) (h : CurlHandle) (now : Timespec)
    (useX509 : Bool) (certKey : String × String)
    (hs₁ : s₀.setup E (some h) (some now) useX509 certKey = .ok () s₁) (es : List Event)
    (hes : ∀ e ∈ es, e.keepsHandle) (hs : s₁.run E es = some s) :
    s.curl.bind CurlHandle.url = targetAfter E s₀.headers (some s₀.url) es ∧
    (CurlOpenOp.fileProperties E s).head? =
      (targetAfter E s₀.headers (some s₀.url) es).map
        fun url => .setProperty "LastURL" (E.effectiveUrl url) := by
  have hu : s.curl.map CurlHandle.url = some (targetAfter E s₀.headers (some s₀.url) es) := by
    rw [url_run E s₁ es hes s hs, setup_url E s₀ h now useX509 certKey s₁ hs₁,
      headers_step E s₀ s₁ _ (setup_step E s₀ h now useX509 certKey s₁ hs₁)]
    rfl
  obtain ⟨c, hc, hcu⟩ := Option.map_eq_some'.mp hu
  have ht : targetAfter E s₀.headers (some s₀.url) es =
      some (redirectAfter E (·.location) s₀.headers s₀.url es) :=
    redirectAfter_map E some _ _ _ es
  set t := redirectAfter E (·.location) s₀.headers s₀.url es
  have hb : s.curl.bind CurlHandle.url = some t := by rw [hc, ← ht]; exact hcu
  refine ⟨hb.trans ht.symm, ?_⟩
  unfold CurlOpenOp.fileProperties
  rw [show s.curl.bind (·.url) = _ from hb, ht]
  rfl

def setUpOpen : Op := (demoOpen.run demoEnv [demoSetup]).getD demoOpen

def redirectedOpen : Op := (setUpOpen.run demoEnv (brokerRedirect ++ plainRedirect)).getD setUpOpen

theorem requests_follow_redirects_open :
    demoOpen.setup demoEnv (some CurlHandle.fresh) (some ⟨100, 0⟩) false ("", "") =
      .ok () setUpOpen ∧
    (∀ e ∈ brokerRedirect ++ plainRedirect, e.keepsHandle) ∧
    setUpOpen.run demoEnv (brokerRedirect ++ plainRedirect) = some redirectedOpen ∧
    redirectedOpen.curl.bind CurlHandle.url =
      targetAfter demoEnv demoOpen.headers (some demoOpen.url) (brokerRedirect ++ plainRedirect) ∧
    (CurlOpenOp.fileProperties demoEnv redirectedOpen).head? =
      (targetAfter demoEnv demoOpen.headers (some demoOpen.url)
        (brokerRedirect ++ plainRedirect)).map
          fun url => .setProperty "LastURL" (demoEnv.effectiveUrl url) :=
  ⟨rfl, by decide, rfl, requests_follow_redirects demoEnv demoOpen setUpOpen redirectedOpen
    CurlHandle.fresh ⟨100, 0⟩ false ("", "") rfl (brokerRedirect ++ plainRedirect) (by decide) rfl⟩

example : targetAfter demoEnv demoOpen.headers (some demoOpen.url)
    (brokerRedirect ++ plainRedirect) = some "https://cache.example/f" := rfl

lemma bind_httpHeader (o : Option CurlHandle) :
    o.bind CurlHandle.httpHeader = (o.map CurlHandle.requestOpts).bind Prod.snd := by
  cases o <;> rfl

/-- **Redirects keep what a request asks for.** A read's handle still sends its `Range` line, and a
listing's its `PROPFIND` with `Depth: 1`. -/
theorem redirects_keep_request (E : Env) (s₀ s₁ s : Op) (h : CurlHandle) (now : Timespec)
    (useX509 : Bool) (certKey : String × String)
    (hs₁ : s₀.setup E (some h) (some now) useX509 certKey = .ok () s₁) (es : List Event)
    (hes : ∀ e ∈ es, e.keepsHandle) (hs : s₁.run E es = some s) :
    (s₀.kind.isRead → s₀.op.2 ≠ 0 → s.curl.bind CurlHandle.httpHeader =
      some (s₀.headerList ++
        ["Range: bytes=" ++ toString s₀.op.1 ++ "-" ++ toString (s₀.op.1 + s₀.op.2 - 1)])) ∧
    (s₀.kind = .listdirOp → s.curl.map CurlHandle.requestOpts =
      some (some "PROPFIND", some (s₀.headerList ++ ["Depth: 1"]))) := by
  have hk₁ := step_kind E s₀ s₁ _ (setup_step E s₀ h now useX509 certKey s₁ hs₁)
  have hkept := fun hk : s₀.kind.isStat = false =>
    requestOpts_run E s₁ (by rw [hk₁]; exact hk) es hes s hs
  constructor
  · intro hk hl
    obtain ⟨s', hs', hh, hc⟩ := setup_rangeHeader E s₀ hk hl h now useX509 certKey
    rw [hs₁] at hs'
    cases hs'
    have hst : s₀.kind.isStat = false := by revert hk; cases s₀.kind <;> decide
    rw [bind_httpHeader, hkept hst, ← bind_httpHeader, hc, hh]
  · intro hk
    rw [hkept (by rw [hk]; rfl), setup_listdir E s₀ h now useX509 certKey hk s₁ hs₁]

def setUpRead : Op := (demoRead.run demoEnv [demoSetup]).getD demoRead

def redirectedRead : Op := (setUpRead.run demoEnv (brokerRedirect ++ plainRedirect)).getD setUpRead

theorem redirects_keep_request_read :
    demoRead.setup demoEnv (some CurlHandle.fresh) (some ⟨100, 0⟩) false ("", "") =
      .ok () setUpRead ∧
    (∀ e ∈ brokerRedirect ++ plainRedirect, e.keepsHandle) ∧
    setUpRead.run demoEnv (brokerRedirect ++ plainRedirect) = some redirectedRead ∧
    redirectedRead.curl.bind CurlHandle.httpHeader = some ["Range: bytes=0-15"] :=
  ⟨rfl, by decide, rfl, (redirects_keep_request demoEnv demoRead setUpRead redirectedRead
    CurlHandle.fresh ⟨100, 0⟩ false ("", "") rfl (brokerRedirect ++ plainRedirect) (by decide)
    rfl).1 rfl (by decide)⟩

end XrdClPelican
