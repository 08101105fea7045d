import ToolGate.Format.DateTime
import ToolGate.Format.Email
import ToolGate.Format.IpAddress
import ToolGate.Format.Url
import ToolGate.Format.Uuid
import ToolGate.Schema.Basic

/-!
# String formats

A text has a format if the format's own rules accept it; a format without
rules accepts every text.
-/

namespace ToolGate

/-- The text has the format. -/
def StringFormat.accepts (format : StringFormat) (text : String) : Bool :=
  match format with
  | .email => Format.Email.accepts text
  | .url => Format.Url.accepts text
  | .uuid => Format.Uuid.accepts text
  | .dateTime => Format.DateTime.acceptsDateTime text
  | .date => Format.DateTime.acceptsDate text
  | .time => Format.DateTime.acceptsTime text
  | .ipv4 => Format.IpAddress.acceptsVersion4 text
  | .ipv6 => Format.IpAddress.acceptsVersion6 text
  | .ip => Format.IpAddress.acceptsVersion4 text || Format.IpAddress.acceptsVersion6 text
  | .other _ => true

end ToolGate
