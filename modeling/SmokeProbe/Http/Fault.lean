/-!
# What is wrong with a response

The reasons for which the head or the body of a response cannot be read.
-/
namespace SmokeProbe.Http

/-- Why a head cannot be read. -/
inductive HeadFault where
  | closed
  | badVersion
  | badStatus
  | badHeaderName
  | badHeaderValue
  | badLineBreak
  | badLength
  | unexpectedEncoding
  | tooLarge
deriving DecidableEq, Repr

def HeadFault.message : HeadFault → String
  | .closed => "connection closed before message completed"
  | .badVersion => "invalid HTTP version parsed"
  | .badStatus => "invalid HTTP status-code parsed"
  | .badHeaderName => "invalid HTTP header parsed"
  | .badHeaderValue => "invalid HTTP header parsed"
  | .badLineBreak => "invalid HTTP header parsed"
  | .badLength => "invalid content-length parsed"
  | .unexpectedEncoding => "unexpected transfer-encoding parsed"
  | .tooLarge => "message head is too large"

/-- What is wrong with headers that stand behind a body. -/
def HeadFault.trailerMessage : HeadFault → String
  | .badHeaderName => "invalid header name"
  | .badHeaderValue => "invalid header value"
  | .tooLarge => "too many headers"
  | _ => "invalid new line"

/-- Why a body cannot be read. -/
inductive BodyFault where
  | short
  | endInChunk
  | noSizeDigit
  | badSize
  | badSizeBlank
  | sizeOverflow
  | lineFeedInExtension
  | badSizeEnd
  | badChunkReturn
  | badChunkLineFeed
  | badTrailerLineFeed
  | badEndLineFeed
  | badTrailer (fault : HeadFault)
deriving DecidableEq, Repr

def BodyFault.message : BodyFault → String
  | .short => "end of file before message length reached"
  | .endInChunk => "unexpected EOF during chunk size line"
  | .noSizeDigit => "Invalid chunk size line: missing size digit"
  | .badSize => "Invalid chunk size line: Invalid Size"
  | .badSizeBlank => "Invalid chunk size linear white space"
  | .sizeOverflow => "invalid chunk size: overflow"
  | .lineFeedInExtension => "invalid chunk extension contains newline"
  | .badSizeEnd => "Invalid chunk size LF"
  | .badChunkReturn => "Invalid chunk body CR"
  | .badChunkLineFeed => "Invalid chunk body LF"
  | .badTrailerLineFeed => "Invalid trailer end LF"
  | .badEndLineFeed => "Invalid chunk end LF"
  | .badTrailer fault => fault.trailerMessage

end SmokeProbe.Http
