import ClusterLog.Text.Class

/-!
# Tokens of a written query

A written query is cut into marks, quoted texts, braced texts and words; blanks only separate.  A
plus sign right in front of a term that begins a phrase says that the term is required; terms are
required anyway, so these signs are dropped first.
-/

namespace ClusterLog.Query

open Text

/-- A part of a written query. -/
inductive Token where
  /-- One of the characters that structure a query. -/
  | mark (c : Char)
  /-- A quoted text as it is written.  Its closing quote may be missing. -/
  | quoted (written : List Char)
  /-- A braced text as it is written.  Its closing brace may be missing. -/
  | braced (written : List Char)
  /-- A run of other characters. -/
  | word (written : List Char)
deriving DecidableEq

namespace Token

/-- How a token is written. -/
def written : Token → List Char
  | mark c => [c]
  | quoted text | braced text | word text => text

/-- Whether a token is a mark. -/
def isMark : Token → Bool
  | mark _ => true
  | _ => false

end Token

/-- The characters that structure a query. -/
def markChars : List Char :=
  "()+:^*,\x7d".toList

/-- The characters that words consist of. -/
def isWordChar (c : Char) : Bool :=
  !(isBlank c || markChars.contains c || c == '"' || c == '\x7b')

/-- Drop the plus signs in front of required terms.  `begins` says that a phrase can begin here. -/
def dropRequiredSigns (begins : Bool) : List Char → List Char
  | [] => []
  | ['+'] => ['+']
  | '+' :: next :: rest =>
    if begins && !(isBlank next || next == '+') then dropRequiredSigns false (next :: rest)
    else '+' :: dropRequiredSigns false (next :: rest)
  | c :: rest => c :: dropRequiredSigns (isBlank c || c == '(') rest

theorem dropRequiredSigns_of_ne {c : Char} (noPlus : c ≠ '+') (begins : Bool) (rest : List Char) :
    dropRequiredSigns begins (c :: rest) =
      c :: dropRequiredSigns (isBlank c || c == '(') rest := by
  cases rest <;> simp [dropRequiredSigns, noPlus]

/-- What is being read when a query is cut into tokens, with the characters read so far, the latest
first. -/
inductive Partial where
  | nothing
  | word (characters : List Char)
  | quoted (characters : List Char)
  | braced (characters : List Char)

namespace Partial

/-- The token that ends here, if one was begun. -/
def finish : Partial → List Token
  | nothing => []
  | word characters => [.word characters.reverse]
  | quoted characters => [.quoted characters.reverse]
  | braced characters => [.braced characters.reverse]

/-- What begins with a character outside quotes and braces: complete tokens and a begun one. -/
def begin (c : Char) : List Token × Partial :=
  if isBlank c then ([], nothing)
  else if c == '"' then ([], quoted ['"'])
  else if c == '\x7b' then ([], braced ['\x7b'])
  else if markChars.contains c then ([.mark c], nothing)
  else ([], word [c])

end Partial

/-- Cut a text into tokens, going on with a begun one. -/
def tokensFrom : Partial → List Char → List Token
  | begun, [] => begun.finish
  | .quoted characters, '"' :: '"' :: rest => tokensFrom (.quoted ('"' :: '"' :: characters)) rest
  | .quoted characters, '"' :: rest =>
    .quoted ('"' :: characters).reverse :: tokensFrom .nothing rest
  | .quoted characters, c :: rest => tokensFrom (.quoted (c :: characters)) rest
  | .braced characters, c :: rest =>
    if c == '\x7d' then .braced (c :: characters).reverse :: tokensFrom .nothing rest
    else tokensFrom (.braced (c :: characters)) rest
  | .word characters, c :: rest =>
    if isWordChar c then
      tokensFrom (.word (c :: characters)) rest
    else
      let (complete, begun) := Partial.begin c
      .word characters.reverse :: (complete ++ tokensFrom begun rest)
  | .nothing, c :: rest =>
    let (complete, begun) := Partial.begin c
    complete ++ tokensFrom begun rest

theorem tokensFrom_blank (rest : List Char) :
    tokensFrom .nothing (' ' :: rest) = tokensFrom .nothing rest := by
  rw [tokensFrom]
  rfl

/-- The tokens of a written query. -/
def tokens (text : List Char) : List Token :=
  tokensFrom .nothing (dropRequiredSigns true text)

end ClusterLog.Query
