import CloudReconcile.Http.Message
import CloudReconcile.Http.Status
import CloudReconcile.Http.Target
import CloudReconcile.Json.Document
import CloudReconcile.Remote.Call

/-!
# Remote objects behind a gateway

A gateway keeps each object at an address of its own: GET reads it, PUT writes it and DELETE
removes it.  The status code of a response alone decides what kind of failure it is.
-/

namespace CloudReconcile

/-- A gateway: where it is and the token that opens it. -/
structure Gateway where
  base : Url
  token : Option String
deriving DecidableEq, Repr

/-- How a request is sent: the response, or why there is none. -/
abbrev Transport (τ : Type) := Http.Request → τ → Except RemoteError Http.Response × τ

namespace Gateway

/-- The text that a response gives as its reason; the usual one if it gives none. -/
def reason (r : Http.Response) : String :=
  if r.text = "" then (Http.Status.reason? r.status).getD "no message" else r.text

def statusText (r : Http.Response) : String :=
  Decimal.natText r.status ++ ": " ++ reason r

/-- The body of a response that grants the request, or the failure that it reports. -/
def classify (what : String) (r : Http.Response) : Except RemoteError (List UInt8) :=
  if Http.Status.isSuccess r.status then .ok r.body
  else if r.status = 404 then .error (.notFound what)
  else if Http.Status.isTransient r.status then .error (.transport (statusText r))
  else if Http.Status.isClientError r.status then .error (.rejected r.status (reason r))
  else .error (.transport (statusText r))

def authorization (g : Gateway) : Option String := g.token.map ("Bearer " ++ ·)

variable (K : Kind)

/-- The request about an object; only one that writes has a body. -/
def request (g : Gateway) (method : Http.Method) (id : K.Identity) (body : Option String) :
    Except RemoteError Http.Request := do
  let url ← K.address g.base id
  let target ← (Http.Target.ofUrl url).mapError fun e => .transport e.message
  if (g.authorization).all Http.isHeaderText then
    return {
      method, target
      contentType := body.map fun _ => "application/json"
      authorization := g.authorization
      body := body.getD "" }
  else throw (.transport "failed to parse header value")

def decode (body : List UInt8) : Except RemoteError K.Remote :=
  let document := Json.Document.ofBytes body
  match K.decode document.tree, document.trailing with
  | .ok r, none => .ok r
  | .ok _, some fault => .error (failure (.fault fault))
  | .error problem, _ => .error (failure problem)
where
  failure (problem : Json.Problem) : RemoteError :=
    .transport ("cannot decode " ++ K.name ++ ": " ++ problem.located body)

def payload (params : K.Params) : Except RemoteError String :=
  match K.encode (K.project params K.blank) with
  | .ok v => .ok v.text
  | .error reason => .error (.transport ("cannot encode " ++ K.name ++ ": " ++ reason))

def send {τ : Type} (g : Gateway) (transport : Transport τ) (method : Http.Method)
    (id : K.Identity) (body : Option String) (t : τ) : Except RemoteError (List UInt8) × τ :=
  match g.request K method id body with
  | .error e => (.error e, t)
  | .ok request =>
    let (response, t) := transport request t
    (response.bind (classify (K.describe id)), t)

/-- Answer a call.  A body that says nothing after a PUT stands for the object that was sent. -/
def answer {τ : Type} (g : Gateway) (transport : Transport τ) : Adapter K τ
  | .get id, t =>
    let (body, t) := g.send K transport .get id none t
    (body.bind (decode K), t)
  | .put params, t =>
    match payload K params with
    | .error e => (.error e, t)
    | .ok text =>
      let (body, t) := g.send K transport .put (K.identity params) (some text) t
      (body.bind fun body =>
        if body.isEmpty then .ok (K.project params K.blank) else decode K body, t)
  | .delete id, t =>
    let (body, t) := g.send K transport .delete id none t
    (body.map fun _ => (), t)

end Gateway

end CloudReconcile
