import XrdClPelican.ResponseText
import XrdClPelican.ReadResult

/-!
A chain of responses: redirects, then the final one. `Redirect` starts a new header parser and
keeps the body state, so every body of the chain reaches the operation alike: a read copies each
chunk `CurlReadOp::Write` accepts, redirect bodies included, and a listing or a `PROPFIND`
buffers them all. What is delivered at success depends on the redirect bodies.
-/

namespace XrdClPelican

example : (readAfter demoEnv demoRead.op demoRead.progress bothBodies).copied =
    [(0, ascii "<a>"), (3, ascii "0123456789abc")] := by decide

end XrdClPelican
