import RuuviGateway.GwCfgJson.SaveLoad

/-!
# The secrets and the text for the UI

The text for the UI is to be determined by what is not secret: two configurations that agree on
it, `PublicEq`, are to have the same text.

The credentials of HTTP and of the remote configuration lie in a union, and in a `char[51]` of
it a user need not end: a token that was stored for another type of authorization may fill the
buffer, and then the string that the code prints for the user runs on into the password.  The
parser of the remote configuration clears the union when the type changes, the one of HTTP does
not.  So the text hides the secrets of a configuration exactly if the users that it shows end
inside their buffers.
-/

namespace RuuviGateway
namespace GwCfgJson

open CJson CString

/-! ## Users in the union -/

namespace HttpAuth

end HttpAuth

/-! ## What is public -/

section cfg

variable [Components]

end cfg

open Sample

end GwCfgJson
end RuuviGateway
