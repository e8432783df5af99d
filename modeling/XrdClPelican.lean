import XrdClPelican.Collaborators
import XrdClPelican.Operation
import XrdClPelican.Base
import XrdClPelican.Stat
import XrdClPelican.Read
import XrdClPelican.Driver
import XrdClPelican.Calls
import XrdClPelican.Headers
import XrdClPelican.Delivery
import XrdClPelican.ReadBuffer
import XrdClPelican.StatDecode
import XrdClPelican.OpenSuccess
import XrdClPelican.HandleReuse
import XrdClPelican.Broker
import XrdClPelican.RedirectBody
import XrdClPelican.PageChecksums
import XrdClPelican.RangeHeader
import XrdClPelican.HeaderTimeout
import XrdClPelican.StatMethod
import XrdClPelican.PageRead
import XrdClPelican.Session
import XrdClPelican.Responses
import XrdClPelican.Requests
import XrdClPelican.Pool
import XrdClPelican.DirectorCache
import XrdClPelican.StatOutcome
import XrdClPelican.ReadResult
import XrdClPelican.ResponseText
import XrdClPelican.RedirectChain
