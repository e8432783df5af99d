import XrdClPelican.Requests
import XrdClPelican.OpenSuccess
import XrdClPelican.Delivery

/-!
What a stat or an open of a plain HTTP server reports. No call clears `m_is_propfind`, and
only `CurlStatOp::Setup`, for a Pelican origin, and `CurlStatOp::Redirect`, towards a Pelican
service, set it (`KeepsFlags`): without a Pelican service it stays as the constructor left it.
`GetStatInfo` then reads the size off the header parser and reports a file, so `Success`, of a
stat or of an open, hands the handler the outcome for the `Content-Length` of the last
response, whatever calls came before it. With `headers_run` that length is the one of the
header block the abstract fold `headersAfter` holds at the end of the run.
-/

namespace XrdClPelican

open Op

/-! ### The two flags along a run -/

/-- `m_is_pelican` stays, and `m_is_propfind` is only ever set, and only on a Pelican operation. -/
structure Op.KeepsFlags (s r : Op) : Prop where
  isPelican : r.isPelican = s.isPelican
  plain : s.isPelican = false → r.isPropfind = s.isPropfind
  mono : s.isPropfind = true → r.isPropfind = true

namespace Op.KeepsFlags

variable {s r r' : Op}

lemma of_eq (hp : r.isPelican = s.isPelican) (hf : r.isPropfind = s.isPropfind) :
    s.KeepsFlags r :=
  ⟨hp, fun _ => hf, fun h => hf.trans h⟩

lemma refl (s : Op) : s.KeepsFlags s := of_eq rfl rfl

lemma trans (h₁ : s.KeepsFlags r) (h₂ : r.KeepsFlags r') : s.KeepsFlags r' :=
  ⟨h₂.isPelican.trans h₁.isPelican,
    fun hp => (h₂.plain (h₁.isPelican.trans hp)).trans (h₁.plain hp),
    fun hf => h₂.mono (h₁.mono hf)⟩

lemma of_sameHandle (k : SameHandle s r) : s.KeepsFlags r := of_eq k.isPelican k.isPropfind

lemma of_or (b : Bool) (hp : r.isPelican = s.isPelican) (hf : r.isPropfind = (s.isPropfind || b))
    (hb : b = true → s.isPelican = true) : s.KeepsFlags r :=
  ⟨hp, fun h => by cases b <;> simp_all, fun h => by simp [hf, h]⟩

end Op.KeepsFlags

section Calls

variable (E : Env) (s : Op)

lemma setup_keepsFlags (curl : Option CurlHandle) (now : Option Timespec) (useX509 : Bool)
    (certKey : String × String) (s' : Op)
    (h : (s.setup E curl now useX509 certKey).state = some s') : s.KeepsFlags s' := by
  rcases hb : CurlOperation.setup curl now useX509 certKey s with e | x
  · cases hk : s.kind <;> simp only [Op.setup, hk, CurlReadOp.setup, CurlStatOp.setup,
      CurlListdirOp.setup, Op.setupRet, hb, bind, Except.bind, Ret.state_throw,
      Option.some.injEq] at h <;> exact h ▸ .refl s
  have hx : s.KeepsFlags x := by
    rcases curl with _ | c <;> rcases now with _ | n <;> try cases hb
    have k := setup_keepsMethod c n useX509 certKey s x hb
    exact .of_eq k.isPelican k.isPropfind
  cases hk : s.kind <;> simp only [Op.setup, hk, CurlReadOp.setup, CurlStatOp.setup,
    CurlListdirOp.setup, Op.setupRet, hb, bind, Except.bind, pure, Except.pure] at h
  all_goals
    (try split_ifs at h) <;> simp only [Ret.state_ok, Option.some.injEq] at h <;> subst h
  all_goals first
    | exact hx.trans (.of_eq rfl rfl)
    | exact let k := virtualSuccess_session E _; hx.trans (.of_eq k.isPelican k.isPropfind)
    | exact hx.trans (.of_or (x.isOrigin && x.isPelican) (by simp [Op.setopt])
        (by simp_all [Op.setopt]) (by simp_all))

lemma redirect_keepsFlags (err : Option String) : s.KeepsFlags (s.redirect E err).1 := by
  unfold Op.redirect
  split_ifs
  · obtain ⟨hpf, -, hpel, -, -⟩ := statRedirect_method E err s
    exact .of_or s.isPelican hpel hpf id
  · have k : s.KeepsMethod (CurlOperation.redirect E err s).1 := .redirect E err
    exact .of_eq k.isPelican k.isPropfind

lemma releaseHandle_keepsFlags : s.KeepsFlags s.releaseHandle.1 := by
  obtain ⟨hl, h⟩ := releaseHandle_fst s
  rw [h]; exact .of_eq rfl rfl

lemma headerTimeoutExpired_keepsFlags (now : Option Timespec) :
    s.KeepsFlags (CurlOperation.headerTimeoutExpired now s).1 := by
  rcases headerTimeoutExpired_fst s now with h | ⟨-, h⟩ <;> rw [h] <;> exact .of_eq rfl rfl

lemma keepsFlags_step (e : Event) (s' : Op) (h : (s.step E e).state = some s') :
    s.KeepsFlags s' := by
  cases e <;> simp only [Op.step, Ret.state_ok, Option.some.injEq] at h
  case setup => exact setup_keepsFlags E s _ _ _ _ s' h
  case startBroker => exact .of_sameHandle (startBroker_session E s _ s' (by simpa using h))
  case success => exact .of_sameHandle (success_session E s _ s' h)
  all_goals subst h
  case redirect err => exact redirect_keepsFlags E s err
  case setBrokerUrl => exact .of_eq rfl rfl
  case header line => exact let k := header_session E s line; .of_eq k.isPelican k.isPropfind
  case write => exact .of_sameHandle (write_session E s _)
  case waitSocketCallback => exact .of_sameHandle (waitSocket_session s _)
  case openSocket => exact .of_sameHandle (openSocket_session s)
  case progress => exact headerTimeoutExpired_keepsFlags s _
  case fail => exact .of_sameHandle (SameHandle.fail (.refl s) _ _ _)
  case releaseHandle => exact releaseHandle_keepsFlags s

lemma keepsFlags_run (es : List Event) (s' : Op) (h : s.run E es = some s') :
    s.KeepsFlags s' := by
  induction es generalizing s with
  | nil => cases h; exact .refl _
  | cons e es ih =>
    rw [run_cons] at h
    rcases hs : (s.step E e).state with _ | s₁ <;> rw [hs] at h
    · cases h
    · exact (keepsFlags_step E s e s₁ hs).trans (ih s₁ h)

end Calls

section Success

variable (E : Env) (now : Nat) (s : Op)

lemma statSuccess_plain (hk : s.kind.isRead = false) (hp : s.isPropfind = false)
    (hh : s.handler = true) :
    ∃ s' t, CurlStatOp.success E now s = .ok () s' ∧ s'.trace = s.trace ++ t ∧
      t.filter Effect.isResponse =
        [.handleResponse (openOutcome E now (s.headers.contentLength, false))] := by
  unfold CurlStatOp.success
  rw [getStatInfo_of_head E s.setDone hp, Ret.bind_ok]
  dsimp only
  split_ifs with h₁ h₂ h₃
  · refine ⟨_, _, rfl, by rw [Op.fail_of_not_isRead (by exact hk)]; rfl, ?_⟩
    simp [hh, openOutcome, show s.headers.contentLength < 0 from h₁, Effect.isResponse]
  · simp [hh] at h₂
  all_goals
    refine ⟨_, _, rfl, by rw [deliver_trace]; (try rw [emit_trace, List.append_assoc]); rfl, ?_⟩
    simp [hh, openOutcome, show ¬s.headers.contentLength < 0 from h₁, Effect.isResponse,
      Op.setDone]

lemma fileProperties_filter (E : Env) (x : Op) :
    (CurlOpenOp.fileProperties E x).filter Effect.isResponse = [] := by
  unfold CurlOpenOp.fileProperties
  split <;> split_ifs <;> rfl

lemma statSuccess_plain_after (x : Op) (m : List Effect) (hk : x.kind.isRead = false)
    (hp : x.isPropfind = false) (hh : x.handler = true) (hx : x.trace = s.trace ++ m)
    (hm : m.filter Effect.isResponse = []) :
    ∃ s' t, CurlStatOp.success E now x = .ok () s' ∧ s'.trace = s.trace ++ t ∧
      t.filter Effect.isResponse =
        [.handleResponse (openOutcome E now (x.headers.contentLength, false))] := by
  obtain ⟨s', t, hs, ht, hf⟩ := statSuccess_plain E now x hk hp hh
  exact ⟨s', m ++ t, hs, by rw [ht, hx, List.append_assoc],
    by rw [List.filter_append, hm, hf]; rfl⟩

lemma openSuccess_plain (hk : s.kind.isRead = false) (hp : s.isPropfind = false)
    (hh : s.handler = true) :
    ∃ s' t, CurlOpenOp.success E now s = .ok () s' ∧ s'.trace = s.trace ++ t ∧
      t.filter Effect.isResponse =
        [.handleResponse (openOutcome E now (s.headers.contentLength, false))] := by
  unfold CurlOpenOp.success
  rw [getStatInfo_of_head E (CurlOpenOp.setFileProperties E s.setDone) (by exact hp), Ret.bind_ok]
  simp only [Bool.false_eq_true, if_false]
  have hf := fileProperties_filter E s.setDone
  split_ifs
  · exact statSuccess_plain_after E now s _ (CurlOpenOp.fileProperties E s.setDone ++
      [.setProperty "ContentLength" (toString s.headers.contentLength)]) (by exact hk)
      (by exact hp) (by exact hh) (by simp [CurlOpenOp.setFileProperties, Op.setDone])
      (by rw [List.filter_append, hf]; rfl)
  · exact statSuccess_plain_after E now s _ (CurlOpenOp.fileProperties E s.setDone) (by exact hk)
      (by exact hp) (by exact hh) rfl hf

end Success

/-- **A plain stat reports the size of the last response.** `Success` answers the handler once, with
the `Content-Length` of the header block the parser holds. -/
theorem plain_stat_reports_content_length (E : Env) (s₀ : Op) (h₀ : Constructed E s₀)
    (hk : s₀.kind.isStat = true) (hp : s₀.isPelican = false) (es : List Event) (s : Op)
    (hs : s₀.run E es = some s) (hh : s.handler = true) (now : Nat) :
    ∃ s' t, s.success E now = .ok () s' ∧ s'.trace = s.trace ++ t ∧
      t.filter Effect.isResponse = [.handleResponse
        (openOutcome E now ((headersAfter E s₀.headers es).contentLength, false))] := by
  have hpf : s.isPropfind = false :=
    ((keepsFlags_run E s₀ es s hs).plain hp).trans h₀.isPropfind_false
  have hkind := kind_run E es s₀ s hs
  rw [← headers_run E es s₀ s hs]
  cases hk₀ : s₀.kind <;> simp only [hk₀, Kind.isStat, Bool.false_eq_true] at hk <;>
    simp only [Op.success, hkind, hk₀]
  · exact statSuccess_plain E now s (by rw [hkind, hk₀]; rfl) hpf hh
  · exact openSuccess_plain E now s (by rw [hkind, hk₀]; rfl) hpf hh

def plainOpenEvents : List Event := demoSetup :: plainRedirect ++ okResponse

def plainOpened : Op := (demoOpen.run demoEnv plainOpenEvents).getD demoOpen

theorem plain_stat_reports_content_length_open :
    demoOpen.run demoEnv plainOpenEvents = some plainOpened ∧ plainOpened.handler = true ∧
    ∃ s' t, plainOpened.success demoEnv 0 = .ok () s' ∧ s'.trace = plainOpened.trace ++ t ∧
      t.filter Effect.isResponse = [.handleResponse
        (openOutcome demoEnv 0
          ((headersAfter demoEnv demoOpen.headers plainOpenEvents).contentLength, false))] :=
  ⟨rfl, rfl, plain_stat_reports_content_length demoEnv demoOpen (.openOp ..) rfl rfl
    plainOpenEvents plainOpened rfl rfl 0⟩

example : openOutcome demoEnv 0
    ((headersAfter demoEnv demoOpen.headers plainOpenEvents).contentLength, false) =
      ⟨.ok, some (.statInfo ⟨"nobody", 16, true, false, 0⟩)⟩ := by decide

end XrdClPelican
