import ContentFilter.Text

/-!
# Hosts

What the commands need of the machine that they run on: files, pages of the web, a clock, and a place
to print lines.
-/

namespace ContentFilter

/-- Why a file could not be read or written. -/
inductive FileError where
  | notFound
  | isDirectory
  | notDirectory
  | other (reason : String)
deriving DecidableEq, Repr

/-- The text of a failure. -/
def FileError.message : FileError → String
  | .notFound => "No such file or directory (os error 2)"
  | .isDirectory => "Is a directory (os error 21)"
  | .notDirectory => "Not a directory (os error 20)"
  | .other reason => reason

/-- The answer of a web server. -/
structure Page where
  status : Nat
  body : String
deriving DecidableEq, Repr

/-- Why a page could not be fetched. -/
inductive FetchError where
  /-- The location is no absolute address. -/
  | relativeAddress
  /-- The location is no address of the web. -/
  | unsupportedScheme (url : String)
  | unreachable (url : String)
  | status (code : Nat)
deriving DecidableEq, Repr

/-- The words that go with a status of a web server. -/
def statusReason : Nat → String
  | 100 => "Continue"
  | 101 => "Switching Protocols"
  | 102 => "Processing"
  | 300 => "Multiple Choices"
  | 301 => "Moved Permanently"
  | 302 => "Found"
  | 303 => "See Other"
  | 304 => "Not Modified"
  | 305 => "Use Proxy"
  | 307 => "Temporary Redirect"
  | 308 => "Permanent Redirect"
  | 400 => "Bad Request"
  | 401 => "Unauthorized"
  | 402 => "Payment Required"
  | 403 => "Forbidden"
  | 404 => "Not Found"
  | 405 => "Method Not Allowed"
  | 406 => "Not Acceptable"
  | 407 => "Proxy Authentication Required"
  | 408 => "Request Timeout"
  | 409 => "Conflict"
  | 410 => "Gone"
  | 411 => "Length Required"
  | 412 => "Precondition Failed"
  | 413 => "Payload Too Large"
  | 414 => "URI Too Long"
  | 415 => "Unsupported Media Type"
  | 416 => "Range Not Satisfiable"
  | 417 => "Expectation Failed"
  | 418 => "I'm a teapot"
  | 421 => "Misdirected Request"
  | 422 => "Unprocessable Entity"
  | 423 => "Locked"
  | 424 => "Failed Dependency"
  | 426 => "Upgrade Required"
  | 428 => "Precondition Required"
  | 429 => "Too Many Requests"
  | 431 => "Request Header Fields Too Large"
  | 451 => "Unavailable For Legal Reasons"
  | 500 => "Internal Server Error"
  | 501 => "Not Implemented"
  | 502 => "Bad Gateway"
  | 503 => "Service Unavailable"
  | 504 => "Gateway Timeout"
  | 505 => "HTTP Version Not Supported"
  | 506 => "Variant Also Negotiates"
  | 507 => "Insufficient Storage"
  | 508 => "Loop Detected"
  | 510 => "Not Extended"
  | 511 => "Network Authentication Required"
  | _ => "<unknown status code>"

/-- The text of a failure. -/
def FetchError.message : FetchError → String
  | .relativeAddress => "builder error: relative URL without a base"
  | .unsupportedScheme url => "builder error for url (" ++ url ++ "): URL scheme is not allowed"
  | .unreachable url =>
    "error sending request for url (" ++ url ++
      "): error trying to connect: tcp connect error: Network is unreachable (os error 101)"
  | .status code => "HTTP " ++ toString code ++ " " ++ statusReason code

/-- A monad in which commands can run. -/
class Host (m : Type → Type) where
  read : String → m (Except FileError String)
  write : String → String → m (Except FileError Unit)
  /-- Gives a file another place, where it replaces what was there. -/
  rename : String → String → m (Except FileError Unit)
  /-- The page at an absolute address. -/
  get : String → m (Except FetchError Page)
  /-- The time in milliseconds. -/
  now : m Nat
  print : String → m Unit

end ContentFilter
