import XrdClPelican.Delivery

/-!
What the handler receives for a response with an HTTP error status. `CurlOperation::Header`
fails the operation as soon as the header block of such a response is complete, with the codes
`HTTPStatusConvert` gives and the status message, before any byte of its body arrives. The
handler is called at most once (`Moves`), so, whatever the driver does next (a body, a
redirect, `Success`), that failure is the only response the caller ever gets: an error response
is never reported as a success.
-/

namespace XrdClPelican

open Op

/-- The response `Header` delivers for a header block `h` complete with an error status. -/
def httpErrorResponse (E : Env) (s : Op) (h : HeaderParser) : Response :=
  ⟨.error (E.HTTPStatusConvert h.statusCode).1 (E.HTTPStatusConvert h.statusCode).2
    (s.failMessage h.statusMessage), none⟩

lemma responseCount_eq_zero {t : List Effect} :
    responseCount t = 0 ↔ t.filter Effect.isResponse = [] := by
  rw [responseCount, List.countP_eq_length_filter, List.length_eq_zero]

lemma headerCallback_error (E : Env) (s : Op) (line : String)
    (hd : (E.parse s.headers line).1.headersDone = true)
    (he : E.HTTPStatusIsError (E.parse s.headers line).1.statusCode = true) :
    (CurlOperation.headerCallback E line s).1 =
      (s.headerFrom E line).setDone.deliver (httpErrorResponse E s (E.parse s.headers line).1) := by
  simp only [CurlOperation.headerCallback, CurlOperation.header, hd, he, Bool.and_self, if_true]
  rw [fail_eq_deliver]; rfl

/-- **An HTTP error is the only response.** Once a header block with an error status completes while
the handler is set, the handler receives that failure and nothing else. -/
theorem http_error_fails (E : Env) (s₀ : Op) (h₀ : Constructed E s₀) (es fs : List Event)
    (s s' : Op) (line : String) (hs : s₀.run E es = some s) (hh : s.handler = true)
    (hd : (E.parse s.headers line).1.headersDone = true)
    (he : E.HTTPStatusIsError (E.parse s.headers line).1.statusCode = true)
    (hs' : s.run E (.header line :: fs) = some s') :
    s'.trace.filter Effect.isResponse =
      [.handleResponse (httpErrorResponse E s (E.parse s.headers line).1)] := by
  -- no response yet when the line arrives
  have hm := moves_run E es s₀ s hs
  have h₀h : s₀.handler = true := by
    have := hm.phase; simp only [Op.phase, hh, if_true] at this
    by_contra h; simp [h] at this
  have hc : responseCount s.trace = 0 := by
    rw [((deliveredAtMostOnce_of_constructed h₀ h₀h).moves hm).count]; simp [Op.phase, hh]
  -- the line fails the operation, and what follows adds no response
  rw [run_cons] at hs'
  simp only [Op.step, Ret.state_ok, Option.some_bind, headerCallback_error E s line hd he] at hs'
  set r := (s.headerFrom E line).setDone.deliver (httpErrorResponse E s (E.parse s.headers line).1)
  have hm' := moves_run E fs r s' hs'
  obtain ⟨t, ht⟩ := hm'.trace
  have hr : r.phase = 1 := rfl
  have hct : responseCount t = 0 := by
    have h₁ := hm'.count
    have h₂ := hm'.phase
    have h₃ := s'.phase_le_one
    rw [← ht, responseCount_append] at h₁
    omega
  have hrt : r.trace =
      s.trace ++ [.handleResponse (httpErrorResponse E s (E.parse s.headers line).1)] := by
    simp [r, hh, headerFrom]
  rw [← ht, hrt, List.filter_append, List.filter_append, responseCount_eq_zero.mp hc,
    responseCount_eq_zero.mp hct]
  rfl

def notFoundRead : Op :=
  (demoRead.run demoEnv [demoSetup, .header "HTTP/1.1 404 Not Found\r\n"]).getD demoRead

def notFoundRest : List Event :=
  [.header "\r\n", .write ⟨[110, 111, 116], by decide⟩, .success 0]

def notFoundDone : Op := (notFoundRead.run demoEnv notFoundRest).getD notFoundRead

theorem http_error_fails_notFound :
    demoRead.run demoEnv [demoSetup, .header "HTTP/1.1 404 Not Found\r\n"] = some notFoundRead ∧
    notFoundRead.handler = true ∧
    (demoEnv.parse notFoundRead.headers "\r\n").1.headersDone = true ∧
    demoEnv.HTTPStatusIsError (demoEnv.parse notFoundRead.headers "\r\n").1.statusCode = true ∧
    notFoundRead.run demoEnv notFoundRest = some notFoundDone ∧
    notFoundDone.trace.filter Effect.isResponse =
      [.handleResponse (httpErrorResponse demoEnv notFoundRead
        (demoEnv.parse notFoundRead.headers "\r\n").1)] :=
  ⟨rfl, rfl, rfl, rfl, rfl, http_error_fails demoEnv demoRead (.read _ _ _ _ _ _)
    [demoSetup, .header "HTTP/1.1 404 Not Found\r\n"]
    [.write ⟨[110, 111, 116], by decide⟩, .success 0] notFoundRead notFoundDone "\r\n"
    rfl rfl rfl rfl rfl⟩

example : httpErrorResponse demoEnv notFoundRead (demoEnv.parse notFoundRead.headers "\r\n").1 =
    ⟨.error 400 3011 "Not Found (read operation at offset 0)", none⟩ := by decide

end XrdClPelican
