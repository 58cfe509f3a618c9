import Tollgate.Http.Message

/-!
# Responses on an HTTP/1 connection

A response is sent with a status line and with the length of its body, where the method and the
status of it allow that. The client of a HEAD request is told the length but not sent the body.
-/

namespace Tollgate.Http

def reason : Nat → String
  | 100 => "Continue"
  | 101 => "Switching Protocols"
  | 200 => "OK"
  | 400 => "Bad Request"
  | 401 => "Unauthorized"
  | 404 => "Not Found"
  | 405 => "Method Not Allowed"
  | 407 => "Proxy Authentication Required"
  | 414 => "URI Too Long"
  | 431 => "Request Header Fields Too Large"
  | 500 => "Internal Server Error"
  | 501 => "Not Implemented"
  | 502 => "Bad Gateway"
  | _ => "<none>"

structure Reply where
  isHttp10 : Bool
  response : Response
  deriving DecidableEq, Repr

namespace Reply

/-- The sign that a client may send its body. -/
def goOn : Reply := ⟨false, .empty 100⟩

def opensTunnel (method : String) (status : Nat) : Bool :=
  status = 101 || (method = "CONNECT" && 200 ≤ status && status ≤ 299)

private def lengthHeader (method : String) (response : Response) : Headers :=
  if opensTunnel method response.status || (method = "HEAD" && response.body.isEmpty) then []
  else [("content-length", Octets.ofText (toString response.body.length))]

/-- A response to a request of a method. A client that speaks HTTP/1.0 is told when more requests
may follow. -/
def ofResponse (isHttp10 keepAlive : Bool) (method : String) (response : Response) : Reply :=
  let persistence : Headers :=
    if isHttp10 && keepAlive then [("connection", Octets.ofText "keep-alive")] else []
  { isHttp10
    response := {
      status := response.status
      headers := response.headers ++ persistence ++ lengthHeader method response
      body :=
        if method = "HEAD" || opensTunnel method response.status then [] else response.body } }

def line (reply : Reply) : String :=
  let version := if reply.isHttp10 then "HTTP/1.0" else "HTTP/1.1"
  s!"{version} {reply.response.status} {reason reply.response.status}"

private def lineBreak : Octets := [0x0D, 0x0A]

def wire (reply : Reply) : Octets :=
  Octets.ofText reply.line ++ lineBreak
    ++ reply.response.headers.flatMap (fun (name, value) =>
      Octets.ofText name ++ [0x3A, 0x20] ++ value ++ lineBreak)
    ++ lineBreak ++ reply.response.body

end Reply

end Tollgate.Http
