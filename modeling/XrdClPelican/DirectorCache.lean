import XrdClPelican.Requests

/-!
What a stat or an open writes to the director cache. `CurlOperation::Redirect` stores the mirror
information of the response it follows (`GetMirrorInfo`, from its `Link` header) in
`m_mirror_url` and `m_mirror_depth` whenever the response names a location, empty or not, and no
other call writes them. `CurlStatOp::Success` puts them in the cache, for an operation with a
cache that is not at an origin, when the URL is not empty. So every entry a stat or an open
writes comes from the response of the last redirect before its `Success`: a mirror an earlier
redirect named is never recorded once a later redirect has replaced it.
-/

namespace XrdClPelican

open Op

/-- The mirror information a response names (`GetMirrorInfo`): the URL and the depth. -/
def HeaderParser.mirrorInfo (h : HeaderParser) : String × Int := (h.mirrorUrl, h.mirrorDepth)

def Op.mirrorInfo (s : Op) : String × Int := (s.mirrorUrl, s.mirrorDepth)

/-- The mirror information of the last redirect of a run that found a location. -/
def mirrorAfter (E : Env) (h : HeaderParser) (m : String × Int) (es : List Event) :
    String × Int :=
  redirectAfter E HeaderParser.mirrorInfo h m es

section Calls

variable (E : Env) (s : Op)

/-! ### One call -/

lemma Op.SameHandle.mirrorInfo_eq {x : Op} (k : SameHandle s x) :
    x.mirrorInfo = s.mirrorInfo := by
  rw [Op.mirrorInfo, k.mirrorUrl, k.mirrorDepth]; rfl

lemma headerTimeoutExpired_mirrorInfo (now : Option Timespec) :
    (CurlOperation.headerTimeoutExpired now s).1.mirrorInfo = s.mirrorInfo := by
  rcases headerTimeoutExpired_fst s now with h | ⟨-, h⟩ <;> rw [h]
  rfl

lemma setup_mirrorInfo (curl : Option CurlHandle) (now : Option Timespec) (useX509 : Bool)
    (certKey : String × String) (s' : Op)
    (hs : (s.setup E curl now useX509 certKey).state = some s') :
    s'.mirrorInfo = s.mirrorInfo := by
  rcases hb : CurlOperation.setup curl now useX509 certKey s with e | x
  · cases hk : s.kind <;> simp only [Op.setup, hk, CurlReadOp.setup, CurlStatOp.setup,
      CurlListdirOp.setup, Op.setupRet, hb, bind, Except.bind, Ret.state_throw,
      Option.some.injEq] at hs <;> exact hs ▸ rfl
  have hx : x.mirrorInfo = s.mirrorInfo := by
    rcases curl with _ | h <;> rcases now with _ | n <;> try cases hb
    obtain ⟨c, t, ex, b, h', -⟩ := setup_spec s useX509 certKey h n
    rw [h'] at hb; cases hb; rfl
  cases hk : s.kind <;> simp only [Op.setup, hk, CurlReadOp.setup, CurlStatOp.setup,
    CurlListdirOp.setup, Op.setupRet, hb, bind, Except.bind, pure, Except.pure] at hs
  all_goals
    (try split_ifs at hs) <;> simp only [Ret.state_ok, Option.some.injEq] at hs <;> subst hs <;>
      first
      | exact hx
      | exact ((virtualSuccess_session E _).mirrorInfo_eq).trans hx

@[simp] lemma Op.fail_mirrorInfo (c : UInt16) (n : UInt32) (m : String) :
    (s.fail c n m).mirrorInfo = s.mirrorInfo := by
  rw [fail_eq_deliver]; rfl

lemma releaseHandle_mirrorInfo : s.releaseHandle.1.mirrorInfo = s.mirrorInfo := by
  obtain ⟨hl, h⟩ := releaseHandle_fst s
  rw [h]; rfl

lemma redirect_mirrorInfo (err : Option String) :
    (s.redirect E err).1.mirrorInfo =
      redirectStep HeaderParser.mirrorInfo s.headers s.mirrorInfo (.redirect err) := by
  have h₀ : (CurlOperation.redirect E err s).1.mirrorInfo =
      redirectStep HeaderParser.mirrorInfo s.headers s.mirrorInfo (.redirect err) := by
    unfold CurlOperation.redirect redirectStep
    dsimp only
    split_ifs with hl
    · simp only [Op.fail_mirrorInfo]; rfl
    · obtain ⟨c, x, h⟩ := Op.redirectTo_eq E s.headers.location
        { s with broker := none, brokerReverseSocket := -1 }
      rw [h]; rfl
    · obtain ⟨c, x, h⟩ := Op.redirectTo_eq E s.headers.location
        { s with broker := none, brokerReverseSocket := -1 }
      split <;> simp only [Op.fail_mirrorInfo, setBrokerHooks] <;> rw [h] <;> rfl
  unfold Op.redirect CurlStatOp.redirect
  split_ifs
  · rw [← h₀]
    generalize CurlOperation.redirect E err s = r
    obtain ⟨s₁, b⟩ := r
    dsimp only
    split_ifs <;> rfl
  · exact h₀

/-! ### What `Success` writes to the cache -/

/-- Every `DirectorCache::Put` in `t` names the mirror information of `s`. -/
def Op.PutsMirror (s : Op) (t : List Effect) : Prop :=
  ∀ u d, Effect.dcachePut u d ∈ t →
    (u, d) = s.mirrorInfo ∧ u ≠ "" ∧ s.dcache = true ∧ s.isOrigin = false

lemma Op.PutsMirror.response (r : Response) (b : Bool) :
    s.PutsMirror (if b then [.handleResponse r] else []) := by
  intro u d h; split at h <;> simp at h

lemma fail_trace (c : UInt16) (n : UInt32) (m : String) :
    ∃ r, (s.fail c n m).trace = s.trace ++ if s.handler then [.handleResponse r] else [] := by
  obtain ⟨r, h⟩ := fail_eq c n m s
  exact ⟨r, by rw [h]; rfl⟩

lemma statSuccess_puts (now : Nat) (s' : Op)
    (h : (CurlStatOp.success E now s).state = some s') :
    ∃ t, s'.trace = s.trace ++ t ∧ s.PutsMirror t := by
  unfold CurlStatOp.success at h
  rcases hg : CurlStatOp.getStatInfo E s.setDone with ⟨⟨size, isdir⟩, s₁⟩ | ⟨e, s₁⟩ | _ <;>
    rw [hg] at h
  · have hf := getStatInfo_frame E _ s₁ (by rw [hg]; rfl)
    have hm : s₁.mirrorInfo = s.mirrorInfo := by rw [hf]; rfl
    have hd : s₁.dcache = s.dcache := by rw [hf]; rfl
    have ho : s₁.isOrigin = s.isOrigin := by rw [hf]; rfl
    have ht : s₁.trace = s.trace := by rw [hf]; rfl
    simp only [Ret.bind_ok] at h
    split_ifs at h with h₁ h₂ h₃ <;> simp only [Ret.state_ok, Option.some.injEq] at h <;> subst h
    · obtain ⟨r, hr⟩ :=
        fail_trace s₁ E.errErrorResponse E.kXR_FSError "Server responded without object size"
      exact ⟨_, by rw [hr, ht], Op.PutsMirror.response _ _ _⟩
    · exact ⟨[], by simp [ht], by simp [PutsMirror]⟩
    · refine ⟨_, by rw [deliver_trace, emit_trace, ht, List.append_assoc], ?_⟩
      intro u d hu
      rw [List.mem_append] at hu
      rcases hu with hu | hu
      · simp only [List.mem_singleton, Effect.dcachePut.injEq] at hu
        obtain ⟨rfl, rfl⟩ := hu
        simp only [Bool.and_eq_true, Bool.not_eq_true'] at h₃
        exact ⟨hm, fun he => absurd h₃.2 (by rw [he]; decide), hd ▸ h₃.1.1, ho ▸ h₃.1.2⟩
      · exact absurd hu (by split <;> simp)
    · exact ⟨_, by rw [deliver_trace, ht], Op.PutsMirror.response _ _ _⟩
  · cases h
    exact ⟨[], by rw [getStatInfo_frame E s.setDone s' (by rw [hg]; rfl)]; simp,
      by simp [PutsMirror]⟩
  · cases h

lemma Op.PutsMirror.append {t₁ t₂ : List Effect} (h₁ : s.PutsMirror t₁) (h₂ : s.PutsMirror t₂) :
    s.PutsMirror (t₁ ++ t₂) := by
  intro u d h
  rcases List.mem_append.mp h with h | h
  exacts [h₁ u d h, h₂ u d h]

lemma Op.PutsMirror.of_same {x : Op} {t : List Effect} (hm : x.mirrorInfo = s.mirrorInfo)
    (hd : x.dcache = s.dcache) (ho : x.isOrigin = s.isOrigin) (h : x.PutsMirror t) :
    s.PutsMirror t := by
  rw [PutsMirror, ← hm, ← hd, ← ho]; exact h

lemma Op.PutsMirror.of_forall {t : List Effect} (h : ∀ e ∈ t, ∀ u d, e ≠ .dcachePut u d) :
    s.PutsMirror t :=
  fun u d hu => absurd rfl (h _ hu u d)

lemma openSuccess_puts (now : Nat) (s' : Op)
    (h : (CurlOpenOp.success E now s).state = some s') :
    ∃ t, s'.trace = s.trace ++ t ∧ s.PutsMirror t := by
  have hp : s.PutsMirror (CurlOpenOp.fileProperties E s) := by
    refine Op.PutsMirror.of_forall s fun e he u d => ?_
    unfold CurlOpenOp.fileProperties at he
    rintro rfl
    simp only [List.mem_append] at he
    split at he <;> split_ifs at he <;> simp at he
  unfold CurlOpenOp.success at h
  rcases hg : CurlStatOp.getStatInfo E (CurlOpenOp.setFileProperties E s.setDone) with
    ⟨⟨size, isdir⟩, s₁⟩ | ⟨e, s₁⟩ | _ <;> rw [hg] at h
  · have hf := getStatInfo_frame E _ s₁ (by rw [hg]; rfl)
    have hm : s₁.mirrorInfo = s.mirrorInfo := by rw [hf]; rfl
    have hd : s₁.dcache = s.dcache := by rw [hf]; rfl
    have ho : s₁.isOrigin = s.isOrigin := by rw [hf]; rfl
    have ht : s₁.trace = s.trace ++ CurlOpenOp.fileProperties E s := by rw [hf]; rfl
    simp only [Ret.bind_ok] at h
    split_ifs at h with h₁ h₂
    · simp only [Ret.state_ok, Option.some.injEq] at h
      subst h
      obtain ⟨r, hr⟩ := fail_trace s₁ E.errErrorResponse E.kXR_isDirectory "Cannot open a directory"
      exact ⟨_, by rw [hr, ht, List.append_assoc], hp.append _ (Op.PutsMirror.response _ _ _)⟩
    · obtain ⟨t, ht', hpt⟩ := statSuccess_puts E _ now s' h
      refine ⟨_, by rw [ht', emit_trace, ht, List.append_assoc, List.append_assoc], ?_⟩
      exact hp.append _ (Op.PutsMirror.append _ (Op.PutsMirror.of_forall _ (by simp))
        (hpt.of_same _ hm hd ho))
    · obtain ⟨t, ht', hpt⟩ := statSuccess_puts E _ now s' h
      exact ⟨_, by rw [ht', ht, List.append_assoc], hp.append _ (hpt.of_same _ hm hd ho)⟩
  · cases h
    exact ⟨_, by rw [getStatInfo_frame E _ s' (by rw [hg]; rfl)]; rfl, hp⟩
  · cases h

lemma success_puts (now : Nat) (s' : Op) (h : (s.success E now).state = some s') :
    ∃ t, s'.trace = s.trace ++ t ∧ s.PutsMirror t := by
  unfold Op.success at h
  split at h
  · exact statSuccess_puts E s now s' h
  · exact openSuccess_puts E s now s' h
  all_goals simp only [Ret.state_ok, Option.some.injEq] at h; subst h
  · exact ⟨_, rfl, Op.PutsMirror.response _ _ _⟩
  · unfold CurlPgReadOp.success
    dsimp only
    split_ifs
    · exact ⟨[], by simp, by simp [PutsMirror]⟩
    all_goals exact ⟨_, rfl, Op.PutsMirror.response _ _ _⟩
  · exact ⟨_, rfl, Op.PutsMirror.response _ _ _⟩

end Calls

/-! ### Runs -/

section Runs

variable (E : Env) (s : Op)

lemma mirrorInfo_step (e : Event) (s' : Op) (h : (s.step E e).state = some s') :
    s'.mirrorInfo = redirectStep HeaderParser.mirrorInfo s.headers s.mirrorInfo e := by
  cases e <;> simp only [Op.step, Ret.state_ok, Option.some.injEq] at h
  case setup => exact setup_mirrorInfo E s _ _ _ _ s' h
  case startBroker => exact (startBroker_session E s _ s' (by simpa using h)).mirrorInfo_eq
  case success => exact (success_session E s _ s' h).mirrorInfo_eq
  all_goals subst h
  case redirect err => exact redirect_mirrorInfo E s err
  case setBrokerUrl => rfl
  case header line => exact (header_session E s line).mirrorInfo_eq
  case write => exact (write_session E s _).mirrorInfo_eq
  case waitSocketCallback => exact (waitSocket_session s _).mirrorInfo_eq
  case openSocket => exact (openSocket_session s).mirrorInfo_eq
  case progress => exact headerTimeoutExpired_mirrorInfo s _
  case fail => exact Op.fail_mirrorInfo s _ _ _
  case releaseHandle => exact releaseHandle_mirrorInfo s

lemma mirrorInfo_run (es : List Event) (s' : Op) (h : s.run E es = some s') :
    s'.mirrorInfo = mirrorAfter E s.headers s.mirrorInfo es := by
  induction es generalizing s with
  | nil => cases h; rfl
  | cons e es ih =>
    rw [run_cons] at h
    rcases hs : (s.step E e).state with _ | s₁ <;> rw [hs] at h
    · cases h
    · rw [ih s₁ h, mirrorInfo_step E s e s₁ hs, headers_step E s s₁ e hs]; rfl

end Runs

lemma Constructed.mirrorInfo {E : Env} {s : Op} (h : Constructed E s) :
    s.mirrorInfo = ("", 0) := by
  cases h <;> rfl

/-- **The director cache learns the last redirect.** Every `DirectorCache::Put` of `Success` names
the mirror of the last redirect that found a location. -/
theorem dcache_puts_last_redirect (E : Env) (s₀ : Op) (h₀ : Constructed E s₀) (es : List Event)
    (s s' : Op) (now : Nat) (hs : s₀.run E es = some s) (hs' : (s.success E now).state = some s') :
    ∃ t, s'.trace = s.trace ++ t ∧ ∀ u d, Effect.dcachePut u d ∈ t →
      (u, d) = mirrorAfter E s₀.headers ("", 0) es ∧ u ≠ "" ∧ s.dcache = true ∧
        s.isOrigin = false := by
  obtain ⟨t, ht, hp⟩ := success_puts E s now s' hs'
  have hm := mirrorInfo_run E s₀ es s hs
  rw [h₀.mirrorInfo] at hm
  exact ⟨t, ht, fun u d hu => (hp u d hu).imp_left (·.trans hm)⟩

def mirrorEnv : Env :=
  { demoEnv with
    parse := fun h line =>
      if line = "Link: <https://cache.example/>; rel=duplicate; depth=1\r\n" then
        ({ h with mirrorUrl := "https://cache.example/", mirrorDepth := 1 }, true)
      else demoParse h line }

def directorStat : Op :=
  CurlStatOp.new 1 mirrorEnv true "https://director.example/f" ⟨0, 0⟩ false false true

def mirrorRedirect : List Event :=
  [demoSetup, .header "HTTP/1.1 302 Found\r\n", .header "Location: https://cache.example/f\r\n",
    .header "Link: <https://cache.example/>; rel=duplicate; depth=1\r\n", .header "\r\n",
    .redirect none] ++ okResponse

def directorRedirected : Op := (directorStat.run mirrorEnv mirrorRedirect).getD directorStat

def directorDone : Op := ((directorRedirected.success mirrorEnv 0).state).getD directorRedirected

theorem dcache_puts_last_redirect_director :
    Constructed mirrorEnv directorStat ∧
    directorStat.run mirrorEnv mirrorRedirect = some directorRedirected ∧
    (directorRedirected.success mirrorEnv 0).state = some directorDone ∧
    ∃ t, directorDone.trace = directorRedirected.trace ++ t ∧ ∀ u d, Effect.dcachePut u d ∈ t →
      (u, d) = mirrorAfter mirrorEnv directorStat.headers ("", 0) mirrorRedirect ∧ u ≠ "" ∧
        directorRedirected.dcache = true ∧ directorRedirected.isOrigin = false :=
  have h₀ : Constructed mirrorEnv directorStat := .stat 1 true _ ⟨0, 0⟩ false false true
  ⟨h₀, rfl, rfl, dcache_puts_last_redirect mirrorEnv directorStat h₀ mirrorRedirect
    directorRedirected directorDone 0 rfl rfl⟩

example : Effect.dcachePut "https://cache.example/" 1 ∈ directorDone.trace := by decide

end XrdClPelican
