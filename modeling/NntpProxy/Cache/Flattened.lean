import NntpProxy.Cache.Rendering
import NntpProxy.Stream.Occurrence

/-!
# Flattened responses

A response that was not framed in chunks is parsed from its octets: the status line is searched
and the framer is asked once more where the payload ends.  Both parsers keep the same of a
response, with one exception: a single line with a code that announces an article is an empty
article in chunks and says nothing but availability when it is flattened.
-/

namespace NntpProxy.Cache

open Protocol NntpProxy.Stream Framing List

variable {kind : RequestKind} {response : Response kind} {chunks : List Bytes}

end NntpProxy.Cache
