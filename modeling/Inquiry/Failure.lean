import Inquiry.Completion.Basic
import Inquiry.Embedding.Basic
import Inquiry.Index.Cache
import Inquiry.Logging
import Inquiry.Settings.Basic
import Inquiry.Store.Basic

/-! Why the program stops. -/
namespace Inquiry

inductive Failure where
  | settings (fault : Settings.Fault)
  | logging (fault : Logging.Fault)
  | database (fault : Store.Fault)
  | embedding (fault : Embedding.Fault)
  | completion (fault : Completion.Fault)
  | cache (fault : Cache.Fault)
  | files (fault : Files.Fault)

def Failure.message : Failure → String
  | .settings fault => "config error: " ++ fault.message
  | .logging fault => "logger error: " ++ fault.message
  | .database fault => "database error: " ++ fault.message
  | .embedding fault => "embedding error: " ++ fault.message
  | .completion fault => "llm error: " ++ fault.message
  | .cache fault => "cache error: " ++ fault.message
  | .files fault => "io error: " ++ fault.message

end Inquiry
