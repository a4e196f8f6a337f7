/-!
# Replies

What comes back over the channel: a status and a body, or the fault that kept the reply away. A
status is shown with its registered phrase; statuses without one say so.
-/
namespace RoundKey

/-- `StatusCode` — the status of a reply. -/
structure Status where
  /-- Its number. -/
  code : Nat
deriving DecidableEq, Repr

namespace Status

/-- Registered statuses and their phrases, in order. -/
def phrases : List (Nat × String) :=
  [(100, "Continue"), (101, "Switching Protocols"), (102, "Processing"), (103, "Early Hints"),
   (200, "OK"), (201, "Created"), (202, "Accepted"), (203, "Non Authoritative Information"),
   (204, "No Content"), (205, "Reset Content"), (206, "Partial Content"), (207, "Multi-Status"),
   (208, "Already Reported"), (226, "IM Used"),
   (300, "Multiple Choices"), (301, "Moved Permanently"), (302, "Found"), (303, "See Other"),
   (304, "Not Modified"), (305, "Use Proxy"), (307, "Temporary Redirect"),
   (308, "Permanent Redirect"),
   (400, "Bad Request"), (401, "Unauthorized"), (402, "Payment Required"), (403, "Forbidden"),
   (404, "Not Found"), (405, "Method Not Allowed"), (406, "Not Acceptable"),
   (407, "Proxy Authentication Required"), (408, "Request Timeout"), (409, "Conflict"),
   (410, "Gone"), (411, "Length Required"), (412, "Precondition Failed"),
   (413, "Payload Too Large"), (414, "URI Too Long"), (415, "Unsupported Media Type"),
   (416, "Range Not Satisfiable"), (417, "Expectation Failed"), (418, "I'm a teapot"),
   (421, "Misdirected Request"), (422, "Unprocessable Entity"), (423, "Locked"),
   (424, "Failed Dependency"), (425, "Too Early"), (426, "Upgrade Required"),
   (428, "Precondition Required"), (429, "Too Many Requests"),
   (431, "Request Header Fields Too Large"), (451, "Unavailable For Legal Reasons"),
   (500, "Internal Server Error"), (501, "Not Implemented"), (502, "Bad Gateway"),
   (503, "Service Unavailable"), (504, "Gateway Timeout"),
   (505, "HTTP Version Not Supported"), (506, "Variant Also Negotiates"),
   (507, "Insufficient Storage"), (508, "Loop Detected"), (510, "Not Extended"),
   (511, "Network Authentication Required")]

/-- The only status of a success. -/
def success : Status := ⟨200⟩

/-- The phrase of a status. -/
def phrase (status : Status) : String :=
  (phrases.lookup status.code).getD "<unknown status code>"

/-- The text of a status. -/
def text (status : Status) : String := toString status.code ++ " " ++ status.phrase

end Status

/-- `RawReply` — a reply that came back whole. -/
structure Reply where
  /-- Its status. -/
  status : Status
  /-- The bytes of its body. -/
  body : List UInt8
deriving DecidableEq, Repr

/-- `TransportError` — why no reply came back. -/
inductive ChannelFault where
  /-- The channel could not be secured. -/
  | security
  /-- The channel could not be prepared. -/
  | preparation
  /-- The request was not answered. -/
  | request
  /-- The body of the reply ended early. -/
  | body
  /-- The connection failed. -/
  | connection
deriving DecidableEq, Repr

/-- The text of a channel fault. -/
def ChannelFault.message : ChannelFault → String
  | security => "Failed to set up pinned TLS configuration!"
  | preparation => "Failed to construct HTTP client!"
  | request => "Failed to execute request!"
  | body => "Failed to read response body!"
  | connection => "Connection failed!"

/-- What `Transport::post` gives back for a request. -/
abbrev Delivery := Except ChannelFault Reply

end RoundKey
