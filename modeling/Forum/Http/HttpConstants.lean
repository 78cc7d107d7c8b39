import Forum.Library.Ascii

/-!
# Constants of HTTP

The verbs, the status codes with their texts, and the header names that a request is searched for. Names are
looked up in a trie without regard to case; here the table of the trie is searched.
-/

namespace Forum.Http

open Forum.Library

/-- `HttpVerb`. -/
inductive HttpVerb
  | UNKNOWN | GET | POST | PUT | PATCH | DELETE
  deriving DecidableEq, Repr

/-- `HttpStatusCode`. -/
inductive HttpStatusCode
  | UnknownStatusCode | Continue | Switching_Protocols | OK | Created | Accepted
  | Non_Authoritative_Information | No_Content | Reset_Content | Partial_Content | Multiple_Choices
  | Moved_Permanently | Found | See_Other | Not_Modified | Use_Proxy | Temporary_Redirect | Bad_Request
  | Unauthorized | Payment_Required | Forbidden | Not_Found | Method_Not_Allowed | Not_Acceptable
  | Proxy_Authentication_Required | Request_Timeout | Conflict | Gone | Length_Required | Precondition_Failed
  | Payload_Too_Large | URI_Too_Long | Unsupported_Media_Type | Range_Not_Satisfiable | Expectation_Failed
  | Upgrade_Required | Precondition_Required | Too_Many_Requests | Request_Header_Fields_Too_Large
  | Internal_Server_Error | Not_Implemented | Bad_Gateway | Service_Unavailable | Gateway_Timeout
  | HTTP_Version_Not_Supported | Network_Authentication_Required
  deriving DecidableEq, Repr

namespace HttpStatusCode

/-- The number of a code. -/
def toNat : HttpStatusCode → ℕ
  | .UnknownStatusCode => 0
  | .Continue => 100
  | .Switching_Protocols => 101
  | .OK => 200
  | .Created => 201
  | .Accepted => 202
  | .Non_Authoritative_Information => 203
  | .No_Content => 204
  | .Reset_Content => 205
  | .Partial_Content => 206
  | .Multiple_Choices => 300
  | .Moved_Permanently => 301
  | .Found => 302
  | .See_Other => 303
  | .Not_Modified => 304
  | .Use_Proxy => 305
  | .Temporary_Redirect => 307
  | .Bad_Request => 400
  | .Unauthorized => 401
  | .Payment_Required => 402
  | .Forbidden => 403
  | .Not_Found => 404
  | .Method_Not_Allowed => 405
  | .Not_Acceptable => 406
  | .Proxy_Authentication_Required => 407
  | .Request_Timeout => 408
  | .Conflict => 409
  | .Gone => 410
  | .Length_Required => 411
  | .Precondition_Failed => 412
  | .Payload_Too_Large => 413
  | .URI_Too_Long => 414
  | .Unsupported_Media_Type => 415
  | .Range_Not_Satisfiable => 416
  | .Expectation_Failed => 417
  | .Upgrade_Required => 426
  | .Precondition_Required => 428
  | .Too_Many_Requests => 429
  | .Request_Header_Fields_Too_Large => 431
  | .Internal_Server_Error => 500
  | .Not_Implemented => 501
  | .Bad_Gateway => 502
  | .Service_Unavailable => 503
  | .Gateway_Timeout => 504
  | .HTTP_Version_Not_Supported => 505
  | .Network_Authentication_Required => 511

/-- `getStatusCodeString`. -/
def text : HttpStatusCode → String
  | .Continue => "Continue"
  | .Switching_Protocols => "Switching Protocols"
  | .OK => "OK"
  | .Created => "Created"
  | .Accepted => "Accepted"
  | .Non_Authoritative_Information => "Non-Authoritative Information"
  | .No_Content => "No Content"
  | .Reset_Content => "Reset Content"
  | .Partial_Content => "Partial Content"
  | .Multiple_Choices => "Multiple Choices"
  | .Moved_Permanently => "Moved Permanently"
  | .Found => "Found"
  | .See_Other => "See Other"
  | .Not_Modified => "Not Modified"
  | .Use_Proxy => "Use Proxy"
  | .Temporary_Redirect => "Temporary Redirect"
  | .Bad_Request => "Bad Request"
  | .Unauthorized => "Unauthorized"
  | .Payment_Required => "Payment Required"
  | .Forbidden => "Forbidden"
  | .Not_Found => "Not Found"
  | .Method_Not_Allowed => "Method Not Allowed"
  | .Not_Acceptable => "Not Acceptable"
  | .Proxy_Authentication_Required => "Proxy Authentication Required"
  | .Request_Timeout => "Request Timeout"
  | .Conflict => "Conflict"
  | .Gone => "Gone"
  | .Length_Required => "Length Required"
  | .Precondition_Failed => "Precondition Failed"
  | .Payload_Too_Large => "Payload Too Large"
  | .URI_Too_Long => "URI Too Long"
  | .Unsupported_Media_Type => "Unsupported Media Type"
  | .Range_Not_Satisfiable => "Range Not Satisfiable"
  | .Expectation_Failed => "Expectation Failed"
  | .Upgrade_Required => "Upgrade Required"
  | .Precondition_Required => "Precondition Required"
  | .Too_Many_Requests => "Too Many Requests"
  | .Request_Header_Fields_Too_Large => "Request Header Fields Too Large"
  | .Internal_Server_Error => "Internal Server Error"
  | .Not_Implemented => "Not Implemented"
  | .Bad_Gateway => "Bad Gateway"
  | .Service_Unavailable => "Service Unavailable"
  | .Gateway_Timeout => "Gateway Timeout"
  | .HTTP_Version_Not_Supported => "HTTP Version Not Supported"
  | .Network_Authentication_Required => "Network Authentication Required"
  | .UnknownStatusCode => "Unknown"

end HttpStatusCode

/-- The headers that are kept. `none` of them is `UnknownHeader`. -/
inductive HttpHeader
  | Accept | Accept_Charset | Accept_Encoding | Accept_Language | Accept_Ranges | Age | Allow | Authorization
  | Cache_Control | Connection | Content_Encoding | Content_Language | Content_Length | Content_Location
  | Content_MD5 | Content_Range | Content_Type | Cookie | Date | DNT | ETag | Expect | Expires | From
  | Front_End_Https | Host | If_Match | If_Modified_Since | If_None_Match | If_Range | If_Unmodified_Since
  | Last_Modified | Location | Max_Forwards | Origin | Pragma | Proxy_Authenticate | Proxy_Authorization
  | Proxy_Connection | Range | Referer | Retry_After | Server | TE | Trailer | Transfer_Encoding | Upgrade
  | User_Agent | Vary | Via | Warning | WWW_Authenticate | X_ATT_DeviceId | X_Correlation_ID | X_Csrf_Token
  | X_Double_Submit | X_Forwarded_For | X_Forwarded_Host | X_Forwarded_Proto | X_Http_Method_Override
  | X_Request_ID | X_Requested_With | X_UIDH | X_Wap_Profile
  deriving DecidableEq, Repr

/-- The entries of the trie `httpHeaders`. -/
def httpHeaders : List (String × HttpHeader) :=
  [("accept-charset", .Accept_Charset), ("accept-encoding", .Accept_Encoding),
   ("accept-language", .Accept_Language), ("accept-ranges", .Accept_Ranges), ("accept", .Accept),
   ("age", .Age), ("allow", .Allow), ("authorization", .Authorization), ("cache-control", .Cache_Control),
   ("connection", .Connection), ("content-encoding", .Content_Encoding),
   ("content-language", .Content_Language), ("content-length", .Content_Length),
   ("content-location", .Content_Location), ("content-md5", .Content_MD5), ("content-range", .Content_Range),
   ("content-type", .Content_Type), ("cookie", .Cookie), ("date", .Date), ("dnt", .DNT), ("etag", .ETag),
   ("expect", .Expect), ("expiresS", .Expires), ("from", .From), ("front-end-https", .Front_End_Https),
   ("host", .Host), ("if-match", .If_Match), ("if-modified-since", .If_Modified_Since),
   ("if-none-match", .If_None_Match), ("if-range", .If_Range), ("if-unmodified-since", .If_Unmodified_Since),
   ("last-modified", .Last_Modified), ("location", .Location), ("max-forwards", .Max_Forwards),
   ("origin", .Origin), ("pragma", .Pragma), ("proxy-authenticate", .Proxy_Authenticate),
   ("proxy-authorization", .Proxy_Authorization), ("proxy-connection", .Proxy_Connection), ("range", .Range),
   ("referer", .Referer), ("retry-after", .Retry_After), ("server", .Server), ("te", .TE),
   ("trailer", .Trailer), ("transfer-encoding", .Transfer_Encoding), ("upgrade", .Upgrade),
   ("user-agent", .User_Agent), ("vary", .Vary), ("via", .Via), ("warning", .Warning),
   ("www-authenticate", .WWW_Authenticate), ("x-att-deviceid", .X_ATT_DeviceId),
   ("x-correlation-id", .X_Correlation_ID), ("x-csrf-token", .X_Csrf_Token),
   ("x-double-submit", .X_Double_Submit), ("x-forwarded-for", .X_Forwarded_For),
   ("x-forwarded-host", .X_Forwarded_Host), ("x-forwarded-proto", .X_Forwarded_Proto),
   ("x-http-method-override", .X_Http_Method_Override), ("x-request-id", .X_Request_ID),
   ("x-requested-with", .X_Requested_With), ("x-uidh", .X_UIDH), ("x-wap-profile", .X_Wap_Profile)]

/-- Is the text the key, with each character in lower or in upper case? -/
def matchesKey (key text : List UInt8) : Bool :=
  key.length == text.length && (key.zip text).all fun pair => pair.2 == toLower pair.1 || pair.2 == toUpper pair.1

/-- `matchHttpHeader`. -/
def matchHttpHeader (header : List UInt8) : Option HttpHeader :=
  (httpHeaders.find? fun entry => matchesKey (asciiBytes entry.1) header).map Prod.snd

end Forum.Http
