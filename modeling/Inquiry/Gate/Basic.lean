/-! A refusal for write intent, which always names what matched. -/
namespace Inquiry

structure Blocked where
  pattern : String
deriving DecidableEq

def Blocked.message (blocked : Blocked) : String := "blocked by `" ++ blocked.pattern ++ "`"

end Inquiry
