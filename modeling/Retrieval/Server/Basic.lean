import Retrieval.Server.Flags
import Retrieval.Server.Message

namespace Retrieval

open Server

structure Server where
  catalog : Catalog
  detector : Detector
  adminToken : Option String
  flags : Flags

namespace Server

def start (c : Catalog) (adminToken : Option String) : Server :=
  ⟨c, .byStopWords, adminToken, .none⟩

/-- Lets pass those who send the token. A missing one counts as empty. -/
def authorize (s : Server) (r : Request) : Except Refusal Unit :=
  match s.adminToken with
  | none => .error .noAdminToken
  | some token =>
    if ((r.header? "X-ADMIN-TOKEN").filter isHeaderText).getD "" == token then .ok ()
    else .error .wrongAdminToken

end Server

end Retrieval
