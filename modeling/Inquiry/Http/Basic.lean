import Inquiry.Decimal.Digits
import Inquiry.Json.Reading
import Inquiry.Json.Writing
import Inquiry.Text.Cut
import Inquiry.Text.Utf8

/-! Requests with a JSON body, and the responses to them. -/
namespace Inquiry.Http

structure Request where
  url : String
  /-- A key that is sent as a bearer token. -/
  key : Option String := none
  body : Json

structure Response where
  status : Nat
  body : ByteArray

abbrev Network := Request → Option Response

def reasons : List (Nat × String) :=
  [(100, "Continue"), (101, "Switching Protocols"), (102, "Processing"), (200, "OK"),
   (201, "Created"), (202, "Accepted"), (203, "Non Authoritative Information"),
   (204, "No Content"), (205, "Reset Content"), (206, "Partial Content"), (207, "Multi-Status"),
   (208, "Already Reported"), (226, "IM Used"), (300, "Multiple Choices"),
   (301, "Moved Permanently"), (302, "Found"), (303, "See Other"), (304, "Not Modified"),
   (305, "Use Proxy"), (307, "Temporary Redirect"), (308, "Permanent Redirect"),
   (400, "Bad Request"), (401, "Unauthorized"), (402, "Payment Required"), (403, "Forbidden"),
   (404, "Not Found"), (405, "Method Not Allowed"), (406, "Not Acceptable"),
   (407, "Proxy Authentication Required"), (408, "Request Timeout"), (409, "Conflict"),
   (410, "Gone"), (411, "Length Required"), (412, "Precondition Failed"),
   (413, "Payload Too Large"), (414, "URI Too Long"), (415, "Unsupported Media Type"),
   (416, "Range Not Satisfiable"), (417, "Expectation Failed"), (418, "I'm a teapot"),
   (421, "Misdirected Request"), (422, "Unprocessable Entity"), (423, "Locked"),
   (424, "Failed Dependency"), (425, "Too Early"), (426, "Upgrade Required"),
   (428, "Precondition Required"), (429, "Too Many Requests"),
   (431, "Request Header Fields Too Large"), (451, "Unavailable For Legal Reasons"),
   (500, "Internal Server Error"), (501, "Not Implemented"), (502, "Bad Gateway"),
   (503, "Service Unavailable"), (504, "Gateway Timeout"), (505, "HTTP Version Not Supported"),
   (506, "Variant Also Negotiates"), (507, "Insufficient Storage"), (508, "Loop Detected"),
   (510, "Not Extended"), (511, "Network Authentication Required")]

def reason (status : Nat) : String :=
  match reasons.find? fun known => known.1 = status with
  | some (_, text) => text
  | none => "<unknown status code>"

def failure (status : Nat) (detail : String) : String :=
  "HTTP " ++ Decimal.natText status ++ " " ++ reason status ++ detail

def Response.isSuccess (response : Response) : Bool :=
  200 ≤ response.status && response.status < 300

/-- Some statuses never have a body. -/
def Response.content (response : Response) : ByteArray :=
  if response.status = 204 || response.status = 304 || response.status < 200 then .empty
  else response.body

def Response.text (response : Response) : String := Utf8.lossy response.content

def Response.json? (response : Response) : Option Json :=
  (Utf8.decode? response.content).bind fun text => Json.parse? text.toList

def undecodable : String := "error decoding response body"

def isHeaderChar (c : Char) : Bool := c = '\t' || (0x20 ≤ c.toNat && c ≠ '\x7f')

def Request.isSendable (request : Request) : Bool :=
  Text.containsText "://" request.url &&
    (request.key.getD "").toList.all isHeaderChar

def shownUrl (url : String) : String :=
  match Text.splitAt? "://".toList url.toList with
  | some (_, rest) => if rest.contains '/' then url else url ++ "/"
  | none => url

def send (network : Network) (request : Request) : Except String Response :=
  if !request.isSendable then .error "builder error"
  else match network request with
    | some response => .ok response
    | none => .error ("error sending request for url (" ++ shownUrl request.url ++ ")")

end Inquiry.Http
