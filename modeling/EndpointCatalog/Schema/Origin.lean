import EndpointCatalog.Collection.Schema
import EndpointCatalog.Json.File
import EndpointCatalog.Schema.Document

namespace EndpointCatalog.Schema

open Text (Codes)

open Files (Path Tree)
open Json (LoadError)

inductive Reply where
  | answered (status : Nat) (content : List UInt8)
  | unreachable (reason : String)
  deriving Repr

inductive FetchError where
  | status (address : String) (status : Nat)
  | unreachable (reason : String)
  | noDocument (address : String)
  deriving DecidableEq, Repr

def statusNames : List (Nat × String) :=
  [(100, "Continue"), (101, "Switching Protocols"), (102, "Processing"), (103, "Early Hints"),
    (200, "OK"), (201, "Created"), (202, "Accepted"), (203, "Non-Authoritative Information"),
    (204, "No Content"), (205, "Reset Content"), (206, "Partial Content"), (207, "Multi-Status"),
    (208, "Already Reported"), (226, "IM Used"), (300, "Multiple Choices"),
    (301, "Moved Permanently"), (302, "Found"), (303, "See Other"), (304, "Not Modified"),
    (305, "Use Proxy"), (307, "Temporary Redirect"), (308, "Permanent Redirect"),
    (400, "Bad Request"), (401, "Unauthorized"), (402, "Payment Required"), (403, "Forbidden"),
    (404, "Not Found"), (405, "Method Not Allowed"), (406, "Not Acceptable"),
    (407, "Proxy Authentication Required"), (408, "Request Timeout"), (409, "Conflict"),
    (410, "Gone"), (411, "Length Required"), (412, "Precondition Failed"),
    (413, "Request Entity Too Large"), (414, "Request-URI Too Long"),
    (415, "Unsupported Media Type"), (416, "Requested Range Not Satisfiable"),
    (417, "Expectation Failed"), (418, "I'm a teapot"), (421, "Misdirected Request"),
    (422, "Unprocessable Entity"), (423, "Locked"), (424, "Failed Dependency"), (425, "Too Early"),
    (426, "Upgrade Required"), (428, "Precondition Required"), (429, "Too Many Requests"),
    (431, "Request Header Fields Too Large"), (451, "Unavailable For Legal Reasons"),
    (500, "Internal Server Error"), (501, "Not Implemented"), (502, "Bad Gateway"),
    (503, "Service Unavailable"), (504, "Gateway Timeout"), (505, "HTTP Version Not Supported"),
    (506, "Variant Also Negotiates"), (507, "Insufficient Storage"), (508, "Loop Detected"),
    (510, "Not Extended"), (511, "Network Authentication Required")]

def statusName (status : Nat) : String := ((statusNames.find? (·.1 = status)).map (·.2)).getD ""

def statusClass (status : Nat) : String :=
  match status / 100 with
  | 1 => "Informational response"
  | 3 => "Redirect response"
  | 4 => "Client error"
  | 5 => "Server error"
  | _ => "Invalid status code"

def FetchError.message : FetchError → String
  | .status address code =>
    s!"Failed to fetch schema: {statusClass code} '{code} {statusName code}' for url '{address}'" ++
      "\nFor more information check: " ++
      s!"https://developer.mozilla.org/en-US/docs/Web/HTTP/Status/{code}"
  | .unreachable reason => "Failed to fetch schema: " ++ reason
  | .noDocument address => "Schema at " ++ address ++ " is not valid JSON"

inductive OriginError where
  | fetch (e : FetchError)
  | load (e : LoadError)
  | rejected (e : Rejection)

def OriginError.message : OriginError → String
  | .fetch e => e.message
  | .load e => e.message
  | .rejected .malformed => "The schema is not a valid schema"
  | .rejected (.unsearchable document) => unsearchableText document
  | .rejected (.unaddressed dialect) => unaddressedText dialect

-- A text that is no document is the fault of the address.
def ofUnread (address : String) : LoadError → OriginError
  | .text (.unexpected ..) => .fetch (.noDocument address)
  | e => .load e

-- Only statuses from 200 up to 299 bring a document.
def Reply.document (address : String) : Reply → Except OriginError Json
  | .unreachable reason => .error (.fetch (.unreachable reason))
  | .answered status content =>
    if status < 200 ∨ 299 < status then .error (.fetch (.status address status))
    else (Json.ofContent content).mapError (ofUnread address)

-- `standard` is what a library makes of the schema of collections.
structure Library (σ ε : Type) where
  standard : σ
  take : Json → Except Rejection σ
  errors : σ → Json → List ε
  path : ε → List Codes
  text : ε → String

namespace Library

variable {σ ε : Type} (library : Library σ ε)

def ofDocument : Json → Except OriginError σ
  | .null => .ok library.standard
  | document => (library.take document).mapError .rejected

def ofReply (address : String) (reply : Reply) : Except OriginError σ :=
  reply.document address >>= library.ofDocument

def ofFile (tree : Tree) (path : Path) : Except OriginError σ :=
  (Json.load tree path).mapError .load >>= library.ofDocument

def messages (schema : σ) (value : Json) : List Codes :=
  ((library.errors schema value).mergeSort fun a b =>
    Text.partsLe (library.path a) (library.path b)).map fun e =>
      messageAt (library.path e) (library.text e)

end Library

def library : Library SchemaDocument Violation where
  standard := Collection.schema
  take := SchemaDocument.ofJson
  errors := SchemaDocument.errors
  path := Violation.path
  text violation := violation.fault.text

def ofDocument : Json → Except OriginError SchemaDocument := library.ofDocument

def ofReply : String → Reply → Except OriginError SchemaDocument := library.ofReply

def ofFile : Tree → Path → Except OriginError SchemaDocument := library.ofFile

end EndpointCatalog.Schema
