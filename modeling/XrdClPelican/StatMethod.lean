import XrdClPelican.Calls

/-!
The method of a stat's requests. `CurlStatOp::Setup` makes the first request a `PROPFIND` for a
Pelican origin and leaves the handle's method alone otherwise; `CurlStatOp::Redirect` makes the
next one a `PROPFIND` towards a Pelican service and sets `CURLOPT_NOBODY`, a `HEAD`, otherwise.
The base `Setup` and `Redirect` touch neither option, so along a run of `Setup` and redirects
the method is a function of the two flags and of whether a redirect has happened. On a handle
with `CURLOPT_NOBODY` unset, as curl creates it and as every `ReleaseHandle` leaves it, the
first request to a plain server is a `GET`.
-/

namespace XrdClPelican

/-- `CURLOPT_CUSTOMREQUEST` and `CURLOPT_NOBODY`, which choose a request's method. -/
def CurlHandle.methodOpts (h : CurlHandle) : Option String × Bool := (h.customRequest, h.noBody)

/-- A call that leaves the method, and what chooses it, alone. -/
structure Op.KeepsMethod (s s' : Op) : Prop where
  opts : s'.curl.map CurlHandle.methodOpts = s.curl.map CurlHandle.methodOpts
  isPropfind : s'.isPropfind = s.isPropfind
  isPelican : s'.isPelican = s.isPelican
  isOrigin : s'.isOrigin = s.isOrigin
  kind : s'.kind = s.kind

namespace Op.KeepsMethod

variable {s s₁ s₂ : Op}

lemma refl (s : Op) : s.KeepsMethod s := ⟨rfl, rfl, rfl, rfl, rfl⟩

lemma trans (h₁ : s.KeepsMethod s₁) (h₂ : s₁.KeepsMethod s₂) : s.KeepsMethod s₂ :=
  ⟨h₂.opts.trans h₁.opts, h₂.isPropfind.trans h₁.isPropfind, h₂.isPelican.trans h₁.isPelican,
    h₂.isOrigin.trans h₁.isOrigin, h₂.kind.trans h₁.kind⟩

lemma setopt (f : CurlHandle → CurlHandle) (hf : ∀ h, (f h).methodOpts = h.methodOpts) :
    s.KeepsMethod (s.setopt f) := by
  refine ⟨?_, rfl, rfl, rfl, rfl⟩
  rw [Op.setopt_curl, Option.map_map]
  exact congrArg (s.curl.map ·) (funext hf)

lemma fail (c : UInt16) (n : UInt32) (m : String) : s.KeepsMethod (s.fail c n m) := by
  rw [Op.fail_eq_deliver]; exact ⟨rfl, rfl, rfl, rfl, rfl⟩

lemma setBrokerHooks : s.KeepsMethod s.setBrokerHooks := setopt _ fun _ => rfl

lemma redirectTo (E : Env) (location : String) : s.KeepsMethod (s.redirectTo E location) := by
  unfold Op.redirectTo
  dsimp only
  split_ifs <;> refine ⟨?_, rfl, rfl, rfl, rfl⟩ <;>
    simp only [Op.setopt, Option.map_map, Function.comp_def] <;> rfl

lemma redirect (E : Env) (startErr : Option String) :
    s.KeepsMethod (CurlOperation.redirect E startErr s).1 := by
  unfold CurlOperation.redirect
  dsimp only
  split_ifs
  · exact .trans (by exact ⟨rfl, rfl, rfl, rfl, rfl⟩) (fail _ _ _)
  · exact .trans (by exact ⟨rfl, rfl, rfl, rfl, rfl⟩) (redirectTo E _)
  · have k : s.KeepsMethod { { s with broker := none, brokerReverseSocket := -1 }.redirectTo E
        s.headers.location with
        brokerUrl := s.headers.broker, broker := some ⟨s.headers.broker⟩ } :=
      (Op.KeepsMethod.trans (by exact ⟨rfl, rfl, rfl, rfl, rfl⟩) (redirectTo E _)).trans
        ⟨rfl, rfl, rfl, rfl, rfl⟩
    split
    · exact k.trans (fail _ _ _)
    · exact k.trans setBrokerHooks

end Op.KeepsMethod

lemma setup_keepsMethod (h : CurlHandle) (now : Timespec) (useX509 : Bool)
    (certKey : String × String) (s s' : Op)
    (hs : CurlOperation.setup (some h) (some now) useX509 certKey s = .ok s') :
    Op.KeepsMethod { s with curl := some h } s' := by
  unfold CurlOperation.setup at hs
  dsimp only at hs
  split_ifs at hs <;> cases hs <;> refine ⟨?_, rfl, rfl, rfl, rfl⟩ <;> rfl

/-! ### The two methods of `CurlStatOp` -/

lemma setopt_customRequest_opts (s : Op) (m : String) :
    (s.setopt fun h => { h with customRequest := some m }).curl.map CurlHandle.methodOpts =
      (s.curl.map CurlHandle.methodOpts).map fun o => (some m, o.2) := by
  simp only [Op.setopt_curl, Option.map_map]; rfl

lemma setopt_noBody_opts (s : Op) :
    (s.setopt fun h => { h with noBody := true }).curl.map CurlHandle.methodOpts =
      (s.curl.map CurlHandle.methodOpts).map fun o => (o.1, true) := by
  simp only [Op.setopt_curl, Option.map_map]; rfl

lemma statSetup_method (s : Op) (h : CurlHandle) (now : Timespec) (useX509 : Bool)
    (certKey : String × String) :
    ∃ s', CurlStatOp.setup (some h) (some now) useX509 certKey s = .ok s' ∧
      s'.isPropfind = (s.isPropfind || s.isOrigin && s.isPelican) ∧
      s'.curl.map CurlHandle.methodOpts =
        some (if s.isOrigin && s.isPelican then some "PROPFIND" else h.customRequest, h.noBody) ∧
      s'.isPelican = s.isPelican ∧ s'.isOrigin = s.isOrigin ∧ s'.kind = s.kind := by
  obtain ⟨c, t, x, b, hs, -⟩ := setup_spec s useX509 certKey h now
  have k := (setup_keepsMethod h now useX509 certKey s _ hs).trans (.setopt (fun h => { h with
    writeFunction := some .statWriteCallback, writeData := some s.self }) fun _ => rfl)
  simp only [CurlStatOp.setup, hs, bind, Except.bind, pure, Except.pure]
  rw [k.isOrigin, k.isPelican]
  by_cases ho : (s.isOrigin && s.isPelican) = true
  · rw [if_pos ho, if_pos ho]
    refine ⟨_, rfl, by simp [ho], ?_, k.isPelican, k.isOrigin, k.kind⟩
    dsimp only
    rw [setopt_customRequest_opts, k.opts]; rfl
  · rw [if_neg ho, if_neg ho]
    refine ⟨_, rfl, by simp [ho, k.isPropfind], ?_, k.isPelican, k.isOrigin, k.kind⟩
    rw [k.opts]; rfl

lemma statRedirect_method (E : Env) (startErr : Option String) (s : Op) :
    (CurlStatOp.redirect E startErr s).1.isPropfind = (s.isPropfind || s.isPelican) ∧
    (CurlStatOp.redirect E startErr s).1.curl.map CurlHandle.methodOpts =
      (s.curl.map CurlHandle.methodOpts).map (fun o =>
        if s.isPelican then (some "PROPFIND", o.2) else (o.1, true)) ∧
    (CurlStatOp.redirect E startErr s).1.isPelican = s.isPelican ∧
    (CurlStatOp.redirect E startErr s).1.isOrigin = s.isOrigin ∧
    (CurlStatOp.redirect E startErr s).1.kind = s.kind := by
  have k := Op.KeepsMethod.redirect E startErr (s := s)
  unfold CurlStatOp.redirect
  generalize CurlOperation.redirect E startErr s = p at k
  obtain ⟨s₁, r⟩ := p
  dsimp only at k ⊢
  rw [← k.isPelican, ← k.opts, ← k.isPropfind]
  split_ifs with hp
  · refine ⟨by simp [hp], ?_, rfl, k.isOrigin, k.kind⟩
    dsimp only
    rw [setopt_customRequest_opts]
  · refine ⟨by simp [hp, Op.setopt], ?_, rfl, k.isOrigin, k.kind⟩
    rw [setopt_noBody_opts]

/-! ### Along a run of `Setup` and redirects -/

lemma Constructed.isPropfind_false {E : Env} {s : Op} (h : Constructed E s) :
    s.isPropfind = false := by
  cases h <;> rfl

/-- The method of a stat along a run, from its flags, the handle's `NOBODY` and its redirects. -/
structure Op.StatMethod (pelican origin noBody redirected : Bool) (s : Op) : Prop where
  kind : s.kind.isStat = true
  isPelican : s.isPelican = pelican
  isOrigin : s.isOrigin = origin
  isPropfind : s.isPropfind = if redirected then pelican else origin && pelican
  opts : s.curl.map CurlHandle.methodOpts =
    some (if s.isPropfind then some "PROPFIND" else none,
      if redirected && !pelican then true else noBody)

lemma statMethod_setup (E : Env) (s₀ : Op) (h₀ : Constructed E s₀) (hk : s₀.kind.isStat = true)
    (h : CurlHandle) (hc : h.customRequest = none) (now : Timespec) (useX509 : Bool)
    (certKey : String × String) (s : Op)
    (hs : (s₀.setup E (some h) (some now) useX509 certKey).state = some s) :
    s.StatMethod s₀.isPelican s₀.isOrigin h.noBody false := by
  obtain ⟨s', hs', hp, ho, hpel, hori, hkind⟩ := statSetup_method s₀ h now useX509 certKey
  have hss : s = s' := by
    cases hkind₀ : s₀.kind <;> simp only [hkind₀, Kind.isStat, Bool.false_eq_true] at hk <;>
      simpa [Op.setup, hkind₀, Op.setupRet, hs'] using hs.symm
  subst hss
  rw [h₀.isPropfind_false, Bool.false_or] at hp
  refine ⟨hkind ▸ hk, hpel, hori, hp, ?_⟩
  rw [ho, hp, hc]
  cases s₀.isOrigin && s₀.isPelican <;> rfl

lemma statMethod_redirect (E : Env) (startErr : Option String) {p o nb r : Bool} {s : Op}
    (hs : s.StatMethod p o nb r) : (s.redirect E startErr).1.StatMethod p o nb true := by
  obtain ⟨hk, hp, ho, hpf, hopts⟩ := hs
  obtain ⟨hpf', hopts', hp', ho', hk'⟩ := statRedirect_method E startErr s
  rw [Op.redirect, if_pos hk]
  refine ⟨hk' ▸ hk, hp'.trans hp, ho'.trans ho, ?_, ?_⟩
  · rw [hpf', hpf, hp]; cases r <;> cases p <;> simp
  · rw [hopts', hopts, hpf', hpf, hp]
    cases r <;> cases p <;> cases o <;> rfl

lemma statMethod_redirects (E : Env) {p o nb : Bool} (errs : List (Option String)) :
    ∀ (r : Bool) (s s' : Op), s.StatMethod p o nb r →
      s.run E (errs.map Event.redirect) = some s' → s'.StatMethod p o nb (r || !errs.isEmpty) := by
  induction errs with
  | nil => intro r s s' hs h; cases h; simpa using hs
  | cons e es ih =>
    intro r s s' hs h
    have h' := ih true _ s' (statMethod_redirect E e hs) h
    simpa using h'

/-- **The method of every stat request.** A stat is a `PROPFIND` exactly for a Pelican origin before
any redirect and a Pelican service after one; otherwise it has no custom method, and
`CURLOPT_NOBODY` after a redirect. -/
theorem stat_request_method (E : Env) (s₀ : Op) (h₀ : Constructed E s₀)
    (hk : s₀.kind.isStat = true) (h : CurlHandle) (hc : h.customRequest = none) (now : Timespec)
    (useX509 : Bool) (certKey : String × String) (errs : List (Option String)) (s : Op)
    (hs : s₀.run E (.setup (some h) (some now) useX509 certKey :: errs.map .redirect) = some s) :
    s.isPropfind = (if errs = [] then s₀.isOrigin && s₀.isPelican else s₀.isPelican) ∧
    s.curl.map CurlHandle.methodOpts =
      some (if s.isPropfind then some "PROPFIND" else none,
        if errs ≠ [] ∧ s₀.isPelican = false then true else h.noBody) := by
  rw [Op.run_cons] at hs
  cases h₁ : (s₀.step E (.setup (some h) (some now) useX509 certKey)).state with
  | none => rw [h₁] at hs; cases hs
  | some s₁ =>
    rw [h₁, Option.some_bind] at hs
    obtain ⟨-, -, -, hpf, hopts⟩ := statMethod_redirects E errs false s₁ s
      (statMethod_setup E s₀ h₀ hk h hc now useX509 certKey s₁ h₁) hs
    refine ⟨hpf.trans ?_, hopts.trans ?_⟩ <;> cases errs <;> cases s₀.isPelican <;> rfl

def plainStat : Op :=
  CurlStatOp.new 1 demoEnv true "https://plain.example/f" ⟨0, 0⟩ false false false

def propfindRedirected : Op :=
  (propfindStat.run demoEnv (demoSetup :: [none, none].map Event.redirect)).getD propfindStat

theorem stat_request_method_origin :
    Constructed demoEnv propfindStat ∧ propfindStat.kind.isStat = true ∧
    CurlHandle.fresh.customRequest = none ∧
    propfindStat.run demoEnv (demoSetup :: [none, none].map Event.redirect) =
      some propfindRedirected ∧
    propfindRedirected.isPropfind = true ∧
    propfindRedirected.curl.map CurlHandle.methodOpts = some (some "PROPFIND", false) :=
  have h₀ : Constructed demoEnv propfindStat := .stat 1 true _ ⟨0, 0⟩ true true false
  have h := stat_request_method demoEnv propfindStat h₀ rfl CurlHandle.fresh rfl ⟨100, 0⟩ false
    ("", "") [none, none] propfindRedirected rfl
  ⟨h₀, rfl, rfl, rfl, h.1.trans rfl, h.2.trans (by rw [h.1]; rfl)⟩

def plainStatSetup : Op :=
  (plainStat.setup demoEnv (some CurlHandle.fresh) (some ⟨100, 0⟩) false ("", "")).state.getD
    plainStat

/-- **The first request to a plain server is a `GET`.** On a fresh handle, a stat of a server that
is no Pelican service sets no custom method and no `CURLOPT_NOBODY`. -/
theorem plain_stat_first_request_get :
    plainStat.isPelican = false ∧
    plainStat.setup demoEnv (some CurlHandle.fresh) (some ⟨100, 0⟩) false ("", "") =
      .ok () plainStatSetup ∧
    plainStatSetup.curl.map CurlHandle.methodOpts = some (none, false) ∧
    plainStatSetup.isPropfind = false :=
  ⟨rfl, rfl, rfl, rfl⟩

end XrdClPelican
