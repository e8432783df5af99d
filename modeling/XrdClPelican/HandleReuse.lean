import XrdClPelican.Calls

/-!
A curl handle goes back to the worker's pool after `ReleaseHandle` and is set up again for the
next operation. `Setup` sets every option it needs but the open-socket and sockopt hooks, which
it sets only for an operation with a broker. `ReleaseHandle` of `CurlOpenOp`, `CurlReadOp` and
`CurlPgReadOp` clears those hooks; that of `CurlStatOp` and `CurlListdirOp` does not, so the
hooks a broker installed on a stat or a listing still point at it when the next operation,
without a broker, runs on the handle.
-/

namespace XrdClPelican

/-- Whether the class's `ReleaseHandle` leaves the broker hooks on the handle. -/
def Kind.keepsBrokerHooks : Kind → Bool
  | .statOp | .listdirOp => true
  | _ => false

lemma releaseHandle_brokerHooks (s : Op) (h : CurlHandle) (hc : s.curl = some h) :
    s.releaseHandle.2.map CurlHandle.brokerHooks =
      some (if s.kind.keepsBrokerHooks then h.brokerHooks else (none, none, none, none)) := by
  cases hk : s.kind <;>
    simp [Op.releaseHandle, hk, Kind.keepsBrokerHooks, CurlStatOp.releaseHandle,
      CurlOpenOp.releaseHandle, CurlReadOp.releaseHandle, CurlListdirOp.releaseHandle,
      CurlOperation.releaseHandle, Op.clearBrokerHooks, Op.setopt, hc, CurlHandle.brokerHooks]
  all_goals split_ifs <;> simp [Op.setopt, hc]

lemma setup_keeps_brokerHooks (E : Env) (t t' : Op) (h : CurlHandle) (now : Timespec)
    (useX509 : Bool) (certKey : String × String) (hb : t.brokerUrl = "")
    (hs : t.setup E (some h) (some now) useX509 certKey = .ok () t') :
    t'.curl.map CurlHandle.brokerHooks = some h.brokerHooks := by
  obtain ⟨c, _, _, _, h₀, hc⟩ := setup_spec t useX509 certKey h now
  have hooks := (hc hb).2
  cases hk : t.kind <;>
    simp only [Op.setup, hk, Op.setupRet, CurlStatOp.setup, CurlListdirOp.setup,
      CurlReadOp.setup, h₀, bind, Except.bind, pure, Except.pure] at hs
  all_goals
    (try split_ifs at hs) <;>
      (simp only [Ret.ok.injEq, true_and] at hs; subst hs
       simpa [CurlHandle.brokerHooks] using hooks)

/-- **The hooks a reused handle carries.** Set up on a released handle, an operation without a
broker runs with the hooks a `CurlStatOp` or a `CurlListdirOp` left on it. -/
theorem setup_after_release_brokerHooks (E : Env) (s t t' : Op) (h h' : CurlHandle)
    (now : Timespec) (useX509 : Bool) (certKey : String × String) (hc : s.curl = some h)
    (hr : s.releaseHandle.2 = some h') (hb : t.brokerUrl = "")
    (hs : t.setup E (some h') (some now) useX509 certKey = .ok () t') :
    t'.curl.map CurlHandle.brokerHooks =
      some (if s.kind.keepsBrokerHooks then h.brokerHooks else (none, none, none, none)) := by
  rw [setup_keeps_brokerHooks E t t' h' now useX509 certKey hb hs]
  simpa [hr] using releaseHandle_brokerHooks s h hc

def hookedHandle : CurlHandle :=
  { CurlHandle.fresh with
    openSocketFunction := some .openSocketCallback, openSocketData := some 3,
    sockOptFunction := some .sockOptCallback, sockOptData := some 3 }

def hookedStat : Op :=
  { CurlStatOp.new 3 demoEnv true "https://origin.example/f" ⟨0, 0⟩ false false false with
    curl := some hookedHandle }

def releasedHooked : CurlHandle := hookedStat.releaseHandle.2.getD CurlHandle.fresh

def readOnReleased : Op :=
  (demoRead.setup demoEnv (some releasedHooked) (some ⟨100, 0⟩) false ("", "")).state.getD demoRead

theorem setup_after_release_brokerHooks_stat :
    hookedStat.curl = some hookedHandle ∧ hookedStat.releaseHandle.2 = some releasedHooked ∧
    demoRead.brokerUrl = "" ∧
    demoRead.setup demoEnv (some releasedHooked) (some ⟨100, 0⟩) false ("", "") =
      .ok () readOnReleased ∧
    readOnReleased.curl.map CurlHandle.brokerHooks =
      some (if hookedStat.kind.keepsBrokerHooks then hookedHandle.brokerHooks
        else (none, none, none, none)) :=
  ⟨rfl, rfl, rfl, rfl, setup_after_release_brokerHooks demoEnv hookedStat demoRead readOnReleased
    hookedHandle releasedHooked ⟨100, 0⟩ false ("", "") rfl rfl rfl rfl⟩

/-! ### A reused handle -/

def brokerRedirect : List Event :=
  [.header "HTTP/1.1 302 Found\r\n", .header "Location: https://cache.example/f\r\n",
    .header "X-Pelican-Broker: https://broker.example\r\n", .header "\r\n", .redirect none]

def releasedAfter (E : Env) (s : Op) (es : List Event) : Option CurlHandle :=
  (s.run E es).bind fun s => s.releaseHandle.2

def setupOn (E : Env) (s : Op) (curl : Option CurlHandle) : Option CurlHandle :=
  (s.setup E curl (some ⟨100, 0⟩) false ("", "")).state.bind (·.curl)

/-- **A reused handle keeps broker hooks.** A read set up on the handle a brokered stat or listing
released has its socket callbacks' data pointing at them. -/
theorem reused_handle_keeps_broker_hooks :
    (setupOn demoEnv demoRead (releasedAfter demoEnv
        (CurlStatOp.new 3 demoEnv true "https://origin.example/f" ⟨0, 0⟩ false false false)
        (demoSetup :: brokerRedirect))).map CurlHandle.brokerHooks =
      some (some .openSocketCallback, some 3, some .sockOptCallback, some 3) ∧
    (setupOn demoEnv demoRead (releasedAfter demoEnv
        (CurlListdirOp.new 4 demoEnv true "https://origin.example/d" false ⟨0, 0⟩)
        (demoSetup :: brokerRedirect))).map CurlHandle.brokerHooks =
      some (some .openSocketCallback, some 4, some .sockOptCallback, some 4) ∧
    (setupOn demoEnv demoRead (some CurlHandle.fresh)).map CurlHandle.brokerHooks =
      some (none, none, none, none) :=
  ⟨by decide, by decide, by decide⟩

end XrdClPelican
