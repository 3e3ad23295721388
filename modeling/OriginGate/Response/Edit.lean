import OriginGate.Event
import OriginGate.Response.ErrorPage

/-!
The changes that handlers make to a response, as data: a list of edits can be applied, its answers
and its log events read off, and runs of it compared.
-/

namespace OriginGate

/-- One change to a response, or one question about its headers. -/
inductive Edit where
  | status (status : Status)
  /-- Sets the media type of the body. -/
  | contentType (value : String)
  /-- Sets the name of the character encoding. -/
  | encoding (name : String)
  | header (name value : String)
  /-- Asks for the value of a header. -/
  | readHeader (name : String)
  /-- Adds text at the end of the body. -/
  | write (text : String)
  | clearBody
  /-- Writes a refusal in place of the body. -/
  | refuse (refusal : Refusal)
  /-- Adds a tenant's rejection to the body. -/
  | rejectTenant (rejection : TenantRejection)
  deriving DecidableEq

/-- The response after an edit. -/
def Response.apply (response : Response) : Edit → Response
  | .status status => { response with status := some status }
  | .contentType value => { response with contentType := some value }
  | .encoding name => { response with encoding := some name }
  | .header name value => response.setHeader name value
  | .readHeader _ => response
  | .write text => response.write text
  | .clearBody => response.clearBody
  | .refuse refusal => response.refuse refusal
  | .rejectTenant rejection => response.rejectTenant rejection

/-- The response after a list of edits, the first one first. -/
def Response.applyAll (response : Response) (edits : List Edit) : Response :=
  edits.foldl Response.apply response

namespace Edit

/-- What an edit answers when made to a response: the header asked for, and nothing for a
change. -/
def answer (edit : Edit) (response : Response) : Option String :=
  match edit with
  | readHeader name => response.header? name
  | _ => none

/-- The refusal that an edit writes, if it writes one. -/
def refusal? : Edit → Option Refusal
  | refuse refusal => some refusal
  | _ => none

/-- The refusals that a list of edits writes, in order. -/
def refusals (edits : List Edit) : List Refusal :=
  edits.filterMap refusal?

/-- The log events of a list of edits: each refusal is logged, and nothing else. -/
def events (edits : List Edit) : List Event :=
  (refusals edits).map .refused

end Edit

/-! ## Runs of edits -/

@[simp] theorem Response.applyAll_cons (response : Response) (edit : Edit) (edits : List Edit) :
    response.applyAll (edit :: edits) = (response.apply edit).applyAll edits :=
  rfl

theorem Response.applyAll_append (response : Response) (first second : List Edit) :
    response.applyAll (first ++ second) = (response.applyAll first).applyAll second :=
  List.foldl_append

end OriginGate
