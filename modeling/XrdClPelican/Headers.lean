import XrdClPelican.Calls
import Mathlib.Data.String.Basic

/-!
The response headers across a run. `Header` feeds each line to the parser, and `Redirect` of a
response that names a location starts a fresh one; no other call touches the parser. So the
parser that the operation reads, for the status, the content length, the offset or the next
redirect, is the parse of the lines received since the last redirect that named a location:
nothing of an earlier response is left in it.

`headersAfter` says this of a run of calls, as a fold of `headersStep`; `headers_run` proves that
along every run the operation's parser is that one.
-/

namespace XrdClPelican

/-! ### The parser as the calls use it -/

/-- What one call does to the header parser. -/
def headersStep (E : Env) (h : HeaderParser) : Event → HeaderParser
  | .header line => (E.parse h line).1
  | .redirect _ => if h.location.isEmpty then h else E.newParser
  | _ => h

def headersAfter (E : Env) (h : HeaderParser) (es : List Event) : HeaderParser :=
  es.foldl (headersStep E) h

@[simp] lemma headersAfter_nil (E : Env) (h : HeaderParser) : headersAfter E h [] = h := rfl

@[simp] lemma headersAfter_cons (E : Env) (h : HeaderParser) (e : Event) (es : List Event) :
    headersAfter E h (e :: es) = headersAfter E (headersStep E h e) es := rfl

def headerLines : List Event → List String
  | [] => []
  | .header line :: es => line :: headerLines es
  | _ :: es => headerLines es

def parseLines (E : Env) (h : HeaderParser) (lines : List String) : HeaderParser :=
  lines.foldl (fun h line => (E.parse h line).1) h

lemma headersAfter_of_noRedirect (E : Env) (h : HeaderParser) (es : List Event)
    (hr : ∀ err, Event.redirect err ∉ es) :
    headersAfter E h es = parseLines E h (headerLines es) := by
  induction es generalizing h with
  | nil => rfl
  | cons e es ih =>
    have hr' : ∀ err, Event.redirect err ∉ es := fun err he => hr err (List.mem_cons_of_mem _ he)
    cases e
    case redirect err => exact absurd (List.mem_cons_self _ _) (hr err)
    all_goals exact ih _ hr'

/-! ### The operation's parser -/

lemma WriteOutcome.headers {E : Env} {c : Chunk} {s r : Op} (h : WriteOutcome E c s r) :
    r.headers = s.headers := by
  cases h <;> rfl

lemma headers_step (E : Env) (s s' : Op) (e : Event) (h : (s.step E e).state = some s') :
    s'.headers = headersStep E s.headers e := by
  cases e <;> simp only [Op.step, Ret.state_ok, Ret.state_unit, Option.some.injEq] at h
  case setup =>
    rcases setup_cases s _ _ E _ _ s' h with h' | ⟨x, hx, rfl⟩
    · exact h'.headers
    · exact (virtualSuccess_quiet E s hx).headers
  case startBroker =>
    exact (Op.Quiet.of_keepsOrFails (startBroker_keepsOrFails E s _ s' h)).headers
  case success => exact (success_quiet E _ s s' h).headers
  all_goals subst h
  case setBrokerUrl => rfl
  case header line =>
    exact (Op.Quiet.of_keepsOrFails (headerCallback_keepsOrFails E s line)).headers
  case write c => exact (writeCallback_outcome E c s).headers
  case redirect err =>
    exact (Op.Quiet.of_keepsOrFails (opRedirect_keepsOrFails E s err)).headers
  case waitSocketCallback fd => exact (waitSocketCallback_touchesSocket s fd).headers
  case openSocket => exact (openSocketCallback_touchesSocket s).headers
  case progress =>
    exact (Op.Quiet.of_keepsOrFails (headerTimeoutExpired_keepsOrFails s _)).headers
  case fail => exact (Op.Quiet.fail _ _ _ s).headers
  case releaseHandle => exact (releaseHandle_sameCore s).headers

lemma headers_run (E : Env) (es : List Event) (s s' : Op) (h : s.run E es = some s') :
    s'.headers = headersAfter E s.headers es := by
  induction es generalizing s with
  | nil => cases h; rfl
  | cons e es ih =>
    rw [Op.run_cons] at h
    cases h₁ : (s.step E e).state with
    | none => simp [h₁] at h
    | some s₁ =>
      rw [h₁] at h
      rw [ih s₁ h, headers_step E s s₁ e h₁, headersAfter_cons]

/-- **No header outlives a redirect.** After a `Redirect` that found a location, and until the next
one, the parser is the parse of exactly the header lines received since. -/
theorem headers_since_redirect (E : Env) (s₁ : Op) (hloc : s₁.headers.location ≠ "")
    (err : Option String) (es : List Event) (hes : ∀ err, Event.redirect err ∉ es) (s : Op)
    (hs : s₁.run E (.redirect err :: es) = some s) :
    s.headers = parseLines E E.newParser (headerLines es) := by
  have hl : s₁.headers.location.isEmpty = false :=
    Bool.eq_false_iff.mpr (mt (String.isEmpty_iff _).mp hloc)
  rw [headers_run E _ s₁ s hs, headersAfter_cons, headersStep, hl, if_neg Bool.false_ne_true,
    headersAfter_of_noRedirect E _ es hes]

def readAt302 : Op :=
  (demoRead.run demoEnv [demoSetup, .header "HTTP/1.1 302 Found\r\n",
    .header "Location: https://cache.example/f\r\n", .header "Content-Length: 16\r\n",
    .header "\r\n"]).getD demoRead

def okHeaders : List Event := [.header "HTTP/1.1 200 OK\r\n", .header "\r\n"]

def readAfterOk : Op := (readAt302.run demoEnv (.redirect none :: okHeaders)).getD readAt302

theorem headers_since_redirect_demo :
    readAt302.headers.location ≠ "" ∧ (∀ err, Event.redirect err ∉ okHeaders) ∧
    readAt302.run demoEnv (.redirect none :: okHeaders) = some readAfterOk ∧
    readAfterOk.headers = parseLines demoEnv demoEnv.newParser (headerLines okHeaders) :=
  have hes : ∀ err, Event.redirect err ∉ okHeaders := by simp [okHeaders]
  have hloc : readAt302.headers.location ≠ "" := by decide
  ⟨hloc, hes, rfl,
    headers_since_redirect demoEnv readAt302 hloc none okHeaders hes readAfterOk rfl⟩

example : readAt302.headers.contentLength = 16 ∧ readAfterOk.headers.contentLength = -1 := by
  decide

end XrdClPelican
