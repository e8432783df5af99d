import XrdClPelican.Calls
import Mathlib.Data.String.Basic

/-!
What an operation keeps from one response to the next: whether client certificates are on
(`m_x509_auth`), whether a header has arrived (`m_received_header`) with the error the header
timeout sets, and the client certificate of the handle (`CURLOPT_SSLCERT`, `CURLOPT_SSLKEY`).

Only three calls change them. `Redirect` turns client certificates on, for good, when the
response asks for them, and sets the certificate and key files of the process configuration
on the handle; `Setup` takes a new handle and gives it the worker's certificate and key when the
operation or the worker wants them; `ReleaseHandle` clears both options and lets the handle go.
Every other call keeps all of them (`SameSession`), the header callback apart, which marks a
header received, and the header timeout, which sets the error only before any header.

So, along every run: once on, client certificates stay on, and every handle the operation holds
from then on carries a certificate and a key (`client_certs_stay_on`); a handle goes back to the
pool without a certificate, and the next operation set up on it has one only if it asks for one
itself (`released_handle_carries_no_cert`); and once a header has arrived, the header timeout
never fires again, neither for a redirected request nor after a new `Setup`
(`header_timeout_disarmed`).
-/

namespace XrdClPelican

def CurlHandle.certOpts (h : CurlHandle) : Option String × Option String := (h.sslCert, h.sslKey)

namespace Op

/-- `x` agrees with `s` on what outlives one response. -/
structure SameSession (s x : Op) : Prop where
  x509Auth : x.x509Auth = s.x509Auth
  receivedHeader : x.receivedHeader = s.receivedHeader
  error : x.error = s.error
  certs : x.curl.map CurlHandle.certOpts = s.curl.map CurlHandle.certOpts

namespace SameSession

variable {s x y : Op}

lemma refl (s : Op) : SameSession s s := ⟨rfl, rfl, rfl, rfl⟩

lemma trans (h₁ : SameSession s x) (h₂ : SameSession x y) : SameSession s y :=
  ⟨h₂.x509Auth.trans h₁.x509Auth, h₂.receivedHeader.trans h₁.receivedHeader,
    h₂.error.trans h₁.error, h₂.certs.trans h₁.certs⟩

lemma setopt (h : SameSession s x) (f : CurlHandle → CurlHandle)
    (hf : ∀ h, (f h).certOpts = h.certOpts) : SameSession s (x.setopt f) :=
  h.trans ⟨rfl, rfl, rfl, by
    rw [setopt_curl, Option.map_map]; exact congrArg (x.curl.map ·) (funext hf)⟩

end SameSession

/-- `x` agrees with `s` on the session and holds the same handle. -/
structure SameHandle (s x : Op) : Prop where
  x509Auth : x.x509Auth = s.x509Auth
  receivedHeader : x.receivedHeader = s.receivedHeader
  error : x.error = s.error
  curl : x.curl = s.curl
  isPropfind : x.isPropfind = s.isPropfind
  mirrorUrl : x.mirrorUrl = s.mirrorUrl
  mirrorDepth : x.mirrorDepth = s.mirrorDepth
  isPelican : x.isPelican = s.isPelican

namespace SameHandle

variable {s x y : Op}

lemma refl (s : Op) : SameHandle s s := by constructor <;> rfl

lemma trans (h₁ : SameHandle s x) (h₂ : SameHandle x y) : SameHandle s y :=
  ⟨h₂.x509Auth.trans h₁.x509Auth, h₂.receivedHeader.trans h₁.receivedHeader,
    h₂.error.trans h₁.error, h₂.curl.trans h₁.curl, h₂.isPropfind.trans h₁.isPropfind,
    h₂.mirrorUrl.trans h₁.mirrorUrl, h₂.mirrorDepth.trans h₁.mirrorDepth,
    h₂.isPelican.trans h₁.isPelican⟩

lemma sameSession (h : SameHandle s x) : SameSession s x :=
  ⟨h.x509Auth, h.receivedHeader, h.error, by rw [h.curl]⟩

lemma fail (h : SameHandle s x) (c : UInt16) (n : UInt32) (m : String) :
    SameHandle s (x.fail c n m) := by
  rw [fail_eq_deliver]; exact h.trans (by constructor <;> rfl)

lemma setDone (s : Op) : SameHandle s s.setDone := by constructor <;> rfl

lemma emit (e : Effect) (s : Op) : SameHandle s (s.emit e) := by constructor <;> rfl

end SameHandle

end Op

open Op

/-! ### The calls that leave the handle alone -/

section Calls

variable (E : Env) (s : Op)

lemma getStatInfo_session (s' : Op) (h : (CurlStatOp.getStatInfo E s).state = some s') :
    SameHandle s s' := by
  rw [getStatInfo_frame E s s' h]; constructor <;> rfl

lemma statSuccess_session (now : Nat) (s' : Op)
    (h : (CurlStatOp.success E now s).state = some s') : SameHandle s s' := by
  unfold CurlStatOp.success at h
  rcases hg : CurlStatOp.getStatInfo E s.setDone with ⟨⟨size, isdir⟩, s₁⟩ | ⟨e, s₁⟩ | _ <;>
    rw [hg] at h
  · have h₁ := (SameHandle.setDone s).trans (getStatInfo_session E _ s₁ (by rw [hg]; rfl))
    simp only [Ret.bind_ok] at h
    split_ifs at h <;> cases h
    · exact h₁.trans (.fail (by constructor <;> rfl) _ _ _)
    · exact h₁
    all_goals exact h₁.trans (by constructor <;> rfl)
  · cases h; exact (SameHandle.setDone s).trans (getStatInfo_session E _ s' (by rw [hg]; rfl))
  · cases h

lemma openSuccess_session (now : Nat) (s' : Op)
    (h : (CurlOpenOp.success E now s).state = some s') : SameHandle s s' := by
  unfold CurlOpenOp.success at h
  have h₀ : SameHandle s (CurlOpenOp.setFileProperties E s.setDone) := by constructor <;> rfl
  rcases hg : CurlStatOp.getStatInfo E (CurlOpenOp.setFileProperties E s.setDone) with
    ⟨⟨size, isdir⟩, s₁⟩ | ⟨e, s₁⟩ | _ <;> rw [hg] at h
  · have h₁ := h₀.trans (getStatInfo_session E _ s₁ (by rw [hg]; rfl))
    simp only [Ret.bind_ok] at h
    split_ifs at h
    · cases h; exact h₁.trans (.fail (by constructor <;> rfl) _ _ _)
    · exact (h₁.trans (.emit _ _)).trans (statSuccess_session E _ now s' h)
    · exact h₁.trans (statSuccess_session E _ now s' h)
  · cases h; exact h₀.trans (getStatInfo_session E _ s' (by rw [hg]; rfl))
  · cases h

lemma success_session (now : Nat) (s' : Op) (h : (s.success E now).state = some s') :
    SameHandle s s' := by
  unfold Op.success at h
  split at h
  · exact statSuccess_session E s now s' h
  · exact openSuccess_session E s now s' h
  all_goals cases h
  · constructor <;> rfl
  · unfold CurlPgReadOp.success; dsimp only; split_ifs <;> constructor <;> rfl
  · constructor <;> rfl

lemma virtualSuccess_session (x : Op) : SameHandle x (CurlReadOp.virtualSuccess E x) := by
  unfold CurlReadOp.virtualSuccess CurlPgReadOp.success CurlReadOp.success
  dsimp only; split_ifs <;> constructor <;> rfl

lemma header_session (line : String) :
    SameHandle (s.headerFrom E line) (CurlOperation.headerCallback E line s).1 := by
  unfold CurlOperation.headerCallback CurlOperation.header
  dsimp only
  split_ifs
  · exact .fail (by constructor <;> rfl) _ _ _
  · exact .refl _

lemma write_session (c : Chunk) : SameHandle s (s.writeCallback E c).1 := by
  have h := writeCallback_outcome E c s
  generalize (s.writeCallback E c).1 = r at h ⊢
  cases h with
  | keep => exact .refl s
  | fail m => constructor <;> rfl
  | copy h => constructor <;> rfl
  | append h => constructor <;> rfl

lemma startBroker_session (err : Option String) (s' : Op)
    (h : (CurlOperation.startBroker E err s).state = some s') : SameHandle s s' := by
  unfold CurlOperation.startBroker at h
  split_ifs at h
  · cases h; exact .fail (.refl s) _ _ _
  · split at h
    · cases h
    · split at h <;> cases h
      · exact .fail (.refl s) _ _ _
      · exact .refl s

lemma waitSocket_session (fd : Int) :
    SameHandle s (CurlOperation.waitSocketCallback fd s).1 := by
  unfold CurlOperation.waitSocketCallback
  split
  · constructor <;> rfl
  · dsimp only; split_ifs <;> constructor <;> rfl

lemma openSocket_session : SameHandle s (CurlOperation.openSocketCallback s).1 := by
  unfold CurlOperation.openSocketCallback
  dsimp only; split_ifs <;> constructor <;> rfl

end Calls

/-! ### The handle -/

section Handle

variable (E : Env) (s : Op)

lemma baseSetup_certs (h : CurlHandle) (now : Timespec) (useX509 : Bool)
    (certKey : String × String) (s₁ : Op)
    (hs : CurlOperation.setup (some h) (some now) useX509 certKey s = .ok s₁) :
    s₁.x509Auth = s.x509Auth ∧ s₁.receivedHeader = s.receivedHeader ∧ s₁.error = s.error ∧
      s₁.curl.map CurlHandle.certOpts =
        some (if s.x509Auth || useX509 then (some certKey.1, some certKey.2) else h.certOpts) := by
  unfold CurlOperation.setup at hs
  dsimp only [setopt, setBrokerHooks] at hs
  split_ifs at hs <;> cases hs <;> simp_all [CurlHandle.certOpts]

lemma setup_certs (h : CurlHandle) (now : Timespec) (useX509 : Bool)
    (certKey : String × String) :
    ∃ s', s.setup E (some h) (some now) useX509 certKey = .ok () s' ∧
      s'.x509Auth = s.x509Auth ∧ s'.receivedHeader = s.receivedHeader ∧ s'.error = s.error ∧
      s'.curl.map CurlHandle.certOpts =
        some (if s.x509Auth || useX509 then (some certKey.1, some certKey.2) else h.certOpts) := by
  obtain ⟨c, t, x, b, hs, -⟩ := setup_spec s useX509 certKey h now
  obtain ⟨hx, hr, he, hc⟩ := baseSetup_certs s h now useX509 certKey _ hs
  suffices ∃ s', s.setup E (some h) (some now) useX509 certKey = .ok () s' ∧
      SameSession
        { s with headerTimeout := t, headerExpiry := x, curl := some c, broker := b } s' by
    obtain ⟨s', h', hss⟩ := this
    exact ⟨s', h', hss.x509Auth.trans hx, hss.receivedHeader.trans hr, hss.error.trans he,
      hss.certs.trans hc⟩
  cases hk : s.kind <;>
    simp only [Op.setup, hk, CurlStatOp.setup, CurlReadOp.setup, CurlListdirOp.setup,
      Op.setupRet, hs, bind, Except.bind, pure, Except.pure]
  case statOp | openOp =>
    split_ifs
    · exact ⟨_, rfl, (SameSession.setopt (.refl _) _ (by intro; rfl)).trans ⟨rfl, rfl, rfl, rfl⟩⟩
    · exact ⟨_, rfl, SameSession.setopt (.refl _) _ (by intro; rfl)⟩
  case readOp | pgReadOp =>
    split_ifs
    · exact ⟨_, rfl,
        (SameSession.setopt (.refl _) _ (by intro; rfl)).trans
          (virtualSuccess_session E _).sameSession⟩
    · exact ⟨_, rfl, (SameSession.setopt (.refl _) _ (by intro; rfl)).trans ⟨rfl, rfl, rfl, rfl⟩⟩
  case listdirOp =>
    exact ⟨_, rfl, (SameSession.setopt (.refl _) _ (by intro; rfl)).trans ⟨rfl, rfl, rfl, rfl⟩⟩

lemma releaseHandle_fst : ∃ hl, s.releaseHandle.1 = { s with curl := none, headerList := hl } := by
  rcases hc : s.curl with _ | h
  · refine ⟨s.headerList, ?_⟩
    obtain ⟨k⟩ := s
    cases k <;> simp_all [Op.releaseHandle, CurlStatOp.releaseHandle, CurlOpenOp.releaseHandle,
      CurlReadOp.releaseHandle, CurlListdirOp.releaseHandle, clearBrokerHooks, setopt]
  · cases hk : s.kind <;> simp only [Op.releaseHandle, hk, CurlStatOp.releaseHandle,
      CurlOpenOp.releaseHandle, CurlReadOp.releaseHandle, CurlListdirOp.releaseHandle,
      CurlOperation.releaseHandle, clearBrokerHooks, setopt, hc, Option.map_some']
    all_goals first | exact ⟨_, rfl⟩ | (split_ifs <;> exact ⟨_, rfl⟩)

lemma releaseHandle_session :
    s.releaseHandle.1.x509Auth = s.x509Auth ∧ s.releaseHandle.1.receivedHeader = s.receivedHeader ∧
      s.releaseHandle.1.error = s.error ∧ s.releaseHandle.1.curl = none := by
  obtain ⟨hl, h⟩ := releaseHandle_fst s
  rw [h]; exact ⟨rfl, rfl, rfl, rfl⟩

lemma releaseHandle_certs : ∀ h ∈ s.releaseHandle.2, h.certOpts = (none, none) := by
  cases hk : s.kind <;> rcases hc : s.curl with _ | h <;>
    simp [Op.releaseHandle, hk, CurlStatOp.releaseHandle, CurlOpenOp.releaseHandle,
      CurlReadOp.releaseHandle, CurlListdirOp.releaseHandle, CurlOperation.releaseHandle,
      clearBrokerHooks, setopt, hc, CurlHandle.certOpts]
  all_goals split_ifs <;> simp [setopt, hc]

end Handle

/-- **No client certificate through the handle pool.** Set up on a released handle, an operation
runs with the certificates it or the worker asks for, as on a fresh handle. -/
theorem released_handle_carries_no_cert (E : Env) (s t t' : Op) (h' : CurlHandle)
    (now : Timespec) (useX509 : Bool) (certKey : String × String)
    (hr : s.releaseHandle.2 = some h')
    (hs : t.setup E (some h') (some now) useX509 certKey = .ok () t') :
    t'.curl.map CurlHandle.certOpts =
      some (if t.x509Auth || useX509 then (some certKey.1, some certKey.2) else (none, none)) := by
  obtain ⟨t'', hs', -, -, -, hc⟩ := setup_certs E t h' now useX509 certKey
  rw [hs, Ret.ok.injEq] at hs'
  rw [hs'.2, hc, releaseHandle_certs s h' (by rw [hr]; rfl)]

def certStat : Op :=
  { CurlStatOp.new 5 demoEnv true "https://origin.example/f" ⟨0, 0⟩ false false false with
    curl := some { CurlHandle.fresh with
      sslCert := some "client.pem", sslKey := some "client.key" } }

def releasedCert : CurlHandle := certStat.releaseHandle.2.getD CurlHandle.fresh

def readOnReleasedCert : Op :=
  (demoRead.setup demoEnv (some releasedCert) (some ⟨100, 0⟩) false ("", "")).state.getD demoRead

theorem released_handle_carries_no_cert_read :
    certStat.releaseHandle.2 = some releasedCert ∧
    demoRead.setup demoEnv (some releasedCert) (some ⟨100, 0⟩) false ("", "") =
      .ok () readOnReleasedCert ∧
    readOnReleasedCert.curl.map CurlHandle.certOpts =
      some (if demoRead.x509Auth || false then (some "", some "") else (none, none)) :=
  ⟨rfl, rfl, released_handle_carries_no_cert demoEnv certStat demoRead readOnReleasedCert
    releasedCert ⟨100, 0⟩ false ("", "") rfl rfl⟩

/-! ### Along a run -/

/-- While client certificates are on, every handle the operation holds has a certificate and a key.
-/
def Op.CertsOn (s : Op) : Prop :=
  s.x509Auth = true → ∀ o ∈ s.curl.map CurlHandle.certOpts, o.1 ≠ none ∧ o.2 ≠ none

/-- What one call may do to what outlives a response. -/
structure Op.KeepsSession (E : Env) (s s' : Op) : Prop where
  timer : s.receivedHeader = true → s'.receivedHeader = true ∧ s'.error = s.error
  x509Auth : s.x509Auth = true → s'.x509Auth = true
  certs : E.clientCertFile ≠ "" → E.clientKeyFile ≠ "" → s.CertsOn → s'.CertsOn

namespace Op.KeepsSession

variable {E : Env} {s x y : Op}

lemma trans (h₁ : KeepsSession E s x) (h₂ : KeepsSession E x y) : KeepsSession E s y where
  timer h := let ⟨hr, he⟩ := h₁.timer h; let ⟨hr', he'⟩ := h₂.timer hr; ⟨hr', he'.trans he⟩
  x509Auth := h₂.x509Auth ∘ h₁.x509Auth
  certs hc hk := h₂.certs hc hk ∘ h₁.certs hc hk

lemma of_sameSession (h : SameSession s x) : KeepsSession E s x where
  timer hr := ⟨h.receivedHeader.trans hr, h.error⟩
  x509Auth hx := h.x509Auth.trans hx
  certs _ _ hs := by unfold CertsOn; rw [h.x509Auth, h.certs]; exact hs

lemma of_sameHandle (h : SameHandle s x) : KeepsSession E s x := of_sameSession h.sameSession

end Op.KeepsSession

lemma Constructed.certsOn {E : Env} {s : Op} (h : Constructed E s) : s.CertsOn := by
  intro hx; cases h <;> cases hx

section Run

variable (E : Env) (s : Op)

lemma redirectTo_keepsSession (location : String) :
    KeepsSession E s (s.redirectTo E location) := by
  unfold redirectTo
  dsimp only [setopt]
  split_ifs
  iterate 3 exact ⟨fun h => ⟨h, rfl⟩, fun _ => rfl, fun _ _ _ => by simp_all [String.isEmpty_iff]⟩
  · refine ⟨fun h => ⟨h, rfl⟩, fun _ => rfl, fun _ _ _ _ o ho => ?_⟩
    simp only [Option.map_map, Option.mem_def, Option.map_eq_some'] at ho
    obtain ⟨h, -, rfl⟩ := ho
    simp [CurlHandle.certOpts]
  · exact .of_sameSession ⟨rfl, rfl, rfl, by simp only [Option.map_map]; rfl⟩

lemma redirect_keepsSession (err : Option String) :
    KeepsSession E s (CurlOperation.redirect E err s).1 := by
  unfold CurlOperation.redirect
  dsimp only
  have h₁ : KeepsSession E s (Op.redirectTo E s.headers.location
      { s with broker := none, brokerReverseSocket := -1 }) :=
    let h := redirectTo_keepsSession E { s with broker := none, brokerReverseSocket := -1 }
      s.headers.location
    ⟨h.timer, h.x509Auth, h.certs⟩
  split_ifs
  · exact .of_sameHandle (.fail (by constructor <;> rfl) _ _ _)
  · exact h₁
  · split
    · exact h₁.trans (.of_sameHandle (.fail (by constructor <;> rfl) _ _ _))
    · exact h₁.trans (.of_sameSession
        (SameSession.setopt (by exact ⟨rfl, rfl, rfl, rfl⟩) _ (by intro; rfl)))

lemma opRedirect_keepsSession (err : Option String) :
    KeepsSession E s (s.redirect E err).1 := by
  unfold Op.redirect CurlStatOp.redirect
  have h := redirect_keepsSession E s err
  split_ifs
  · generalize CurlOperation.redirect E err s = r at h ⊢
    obtain ⟨s₁, b⟩ := r
    dsimp only at h ⊢
    split_ifs
    · exact h.trans (.of_sameSession ((SameSession.setopt (.refl s₁)
        (fun h => { h with customRequest := some "PROPFIND" }) fun _ => rfl).trans
        ⟨rfl, rfl, rfl, rfl⟩))
    · exact h.trans (.of_sameSession (SameSession.setopt (.refl s₁)
        (fun h => { h with noBody := true }) fun _ => rfl))
  · exact h

lemma headerTimeoutExpired_fst (now : Option Timespec) :
    (CurlOperation.headerTimeoutExpired now s).1 = s ∨ s.receivedHeader = false ∧
      (CurlOperation.headerTimeoutExpired now s).1 = { s with error := .errHeaderTimeout } := by
  unfold CurlOperation.headerTimeoutExpired
  split_ifs with hr
  · exact .inl rfl
  · split
    · exact .inl rfl
    · dsimp only
      split_ifs
      · exact .inr ⟨by simpa using hr, rfl⟩
      · exact .inl rfl

lemma headerTimeoutExpired_keepsSession (now : Option Timespec) :
    KeepsSession E s (CurlOperation.headerTimeoutExpired now s).1 := by
  rcases headerTimeoutExpired_fst s now with h | ⟨hr, h⟩ <;> rw [h]
  · exact .of_sameSession (.refl s)
  · exact ⟨fun h => absurd (hr.symm.trans h) Bool.false_ne_true, fun h => h, fun _ _ h => h⟩

lemma setup_keepsSession (curl : Option CurlHandle) (now : Option Timespec) (useX509 : Bool)
    (certKey : String × String) (s' : Op)
    (h : (s.setup E curl now useX509 certKey).state = some s') : KeepsSession E s s' := by
  rcases curl with _ | c
  · cases hk : s.kind <;> simp [Op.setup, hk, Op.setupRet, CurlStatOp.setup, CurlReadOp.setup,
      CurlListdirOp.setup, CurlOperation.setup, bind, Except.bind] at h <;> subst h <;>
      exact .of_sameSession (.refl s)
  rcases now with _ | n
  · cases hk : s.kind <;> simp [Op.setup, hk, Op.setupRet, CurlStatOp.setup, CurlReadOp.setup,
      CurlListdirOp.setup, CurlOperation.setup, bind, Except.bind] at h <;> subst h <;>
      exact .of_sameSession (.refl s)
  obtain ⟨s₁, hs, hx, hr, he, hc⟩ := setup_certs E s c n useX509 certKey
  rw [hs] at h
  cases h
  refine ⟨fun h => ⟨hr.trans h, he⟩, fun h => hx.trans h, fun _ _ _ hx' o ho => ?_⟩
  rw [hc, hx.symm.trans hx', Bool.true_or, if_pos rfl, Option.mem_def, Option.some.injEq] at ho
  rw [← ho]; exact ⟨Option.some_ne_none _, Option.some_ne_none _⟩

lemma releaseHandle_keepsSession : KeepsSession E s s.releaseHandle.1 := by
  obtain ⟨hx, hr, he, hc⟩ := releaseHandle_session s
  exact ⟨fun h => ⟨hr.trans h, he⟩, fun h => hx.trans h, fun _ _ _ _ o ho => by simp [hc] at ho⟩

lemma keepsSession_step (e : Event) (s' : Op) (h : (s.step E e).state = some s') :
    KeepsSession E s s' := by
  cases e <;> simp only [Op.step, Ret.state_ok, Option.some.injEq] at h
  case setup => exact setup_keepsSession E s _ _ _ _ s' h
  case startBroker => exact .of_sameHandle (startBroker_session E s _ s' (by simpa using h))
  case success => exact .of_sameHandle (success_session E s _ s' h)
  all_goals subst h
  case setBrokerUrl => exact .of_sameSession ⟨rfl, rfl, rfl, rfl⟩
  case header line =>
    exact (⟨fun _ => ⟨rfl, rfl⟩, fun h => h, fun _ _ h => h⟩ : KeepsSession E s
      (s.headerFrom E line)).trans (.of_sameHandle (header_session E s line))
  case write => exact .of_sameHandle (write_session E s _)
  case redirect => exact opRedirect_keepsSession E s _
  case waitSocketCallback => exact .of_sameHandle (waitSocket_session s _)
  case openSocket => exact .of_sameHandle (openSocket_session s)
  case progress => exact headerTimeoutExpired_keepsSession E s _
  case fail => exact .of_sameHandle (.fail (.refl s) _ _ _)
  case releaseHandle => exact releaseHandle_keepsSession E s

lemma keepsSession_run (es : List Event) (s' : Op) (h : s.run E es = some s') :
    KeepsSession E s s' := by
  induction es generalizing s with
  | nil => cases h; exact .of_sameSession (.refl _)
  | cons e es ih =>
    rw [run_cons] at h
    rcases hs : (s.step E e).state with _ | s₁ <;> rw [hs] at h
    · cases h
    · exact (keepsSession_step E s e s₁ hs).trans (ih s₁ h)

end Run

/-- **Client certificates stay on.** Once a redirect turns client certificates on, every handle the
operation holds afterwards has a certificate and a key. -/
theorem client_certs_stay_on (E : Env) (hc : E.clientCertFile ≠ "") (hk : E.clientKeyFile ≠ "")
    (s₀ : Op) (h₀ : Constructed E s₀) (es fs : List Event) (s s' : Op)
    (hs : s₀.run E es = some s) (hx : s.x509Auth = true) (hs' : s.run E fs = some s') :
    s'.x509Auth = true ∧ ∀ h ∈ s'.curl, h.sslCert ≠ none ∧ h.sslKey ≠ none := by
  have hon := (keepsSession_run E s₀ es s hs).certs hc hk h₀.certsOn
  have k := keepsSession_run E s fs s' hs'
  have hx' := k.x509Auth hx
  refine ⟨hx', fun h hh => k.certs hc hk hon hx' h.certOpts ?_⟩
  rw [Option.mem_def] at hh ⊢; rw [hh]; rfl

def x509Env : Env :=
  { demoEnv with
    parse := fun h line =>
      if line = "X-X509-Auth: required\r\n" then ({ h with x509Auth := true }, true)
      else demoParse h line
    clientCertFile := "client.pem"
    clientKeyFile := "client.key" }

def x509Read : Op :=
  CurlReadOp.new 1 x509Env true "https://origin.example/f" ⟨0, 0⟩ (0, 16) fun _ => 0

def x509Redirect : List Event :=
  [demoSetup, .header "HTTP/1.1 302 Found\r\n", .header "Location: https://cache.example/f\r\n",
    .header "X-X509-Auth: required\r\n", .header "\r\n", .redirect none]

def x509Redirected : Op := (x509Read.run x509Env x509Redirect).getD x509Read

def x509Reuse : List Event :=
  [.releaseHandle, .setup (some CurlHandle.fresh) (some ⟨200, 0⟩) false ("", "")]

def x509Reused : Op := (x509Redirected.run x509Env x509Reuse).getD x509Redirected

theorem client_certs_stay_on_read :
    x509Env.clientCertFile ≠ "" ∧ x509Env.clientKeyFile ≠ "" ∧
    x509Read.run x509Env x509Redirect = some x509Redirected ∧ x509Redirected.x509Auth = true ∧
    x509Redirected.run x509Env x509Reuse = some x509Reused ∧
    x509Reused.x509Auth = true ∧ ∀ h ∈ x509Reused.curl, h.sslCert ≠ none ∧ h.sslKey ≠ none :=
  have hc : x509Env.clientCertFile ≠ "" := by decide
  have hk : x509Env.clientKeyFile ≠ "" := by decide
  ⟨hc, hk, rfl, rfl, rfl, client_certs_stay_on x509Env hc hk x509Read (.read _ _ _ _ _ _)
    x509Redirect x509Reuse x509Redirected x509Reused rfl rfl rfl⟩

/-- **The header timeout is disarmed for good.** Once a header line has arrived,
`HeaderTimeoutExpired` returns `false` at every reading, across redirects and new `Setup`s. -/
theorem header_timeout_disarmed (E : Env) (s : Op) (hr : s.receivedHeader = true)
    (es : List Event) (s' : Op) (hs : s.run E es = some s') :
    s'.receivedHeader = true ∧ s'.error = s.error ∧
      ∀ now, CurlOperation.headerTimeoutExpired now s' = (s', false) := by
  obtain ⟨hr', he⟩ := (keepsSession_run E s es s' hs).timer hr
  exact ⟨hr', he, fun _ => by simp [CurlOperation.headerTimeoutExpired, hr']⟩

def statusReceived : Op :=
  (demoRead.run demoEnv [demoSetup, .header "HTTP/1.1 302 Found\r\n"]).getD demoRead

def lateProgress : List Event :=
  [.header "Location: https://cache.example/f\r\n", .header "\r\n", .redirect none, demoSetup,
    .progress (some ⟨1000, 0⟩)]

def afterLateProgress : Op := (statusReceived.run demoEnv lateProgress).getD statusReceived

theorem header_timeout_disarmed_late :
    statusReceived.receivedHeader = true ∧
    statusReceived.run demoEnv lateProgress = some afterLateProgress ∧
    afterLateProgress.receivedHeader = true ∧ afterLateProgress.error = statusReceived.error ∧
    ∀ now, CurlOperation.headerTimeoutExpired now afterLateProgress = (afterLateProgress, false) :=
  ⟨rfl, rfl, header_timeout_disarmed demoEnv statusReceived rfl lateProgress afterLateProgress rfl⟩

end XrdClPelican
