import Inquiry.Proofs.Query.Expression
import Inquiry.Proofs.Query.Hollow
import Inquiry.Proofs.Query.Replacing

/-!
A string in an object of the shell. Constructor calls are replaced before strings are told apart, so
the string is what it says exactly when no text of such a call stands in it.
-/
namespace Inquiry.Relaxed

section Kept

variable {base out : List Char} {c d : Char} {last : Option Char} {pass : Pass}

end Kept

end Inquiry.Relaxed

namespace Inquiry.Json

end Inquiry.Json

namespace Inquiry.Query

open Json Inquiry.Relaxed Inquiry.ValueCall

def quotedText (mark : Char) (key content : List Char) : List Char :=
  '\x7b' :: (key ++ [':', ' ']) ++ mark :: (content ++ [mark, '\x7d'])

section Strings

variable {mark : Char} {key content : List Char} {now : Int}

end Strings

end Inquiry.Query
