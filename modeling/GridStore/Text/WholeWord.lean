import GridStore.Text.Word

/-!
Finding a text inside another, and replacing a word where it stands alone. A word stands alone
when no word character touches it on either side.
-/

set_option autoImplicit false

namespace GridStore.Text

/-- Whether `part` occurs anywhere in the text, also inside a longer word. -/
def occursIn (part : List Char) : List Char → Bool
  | [] => part.isEmpty
  | character :: rest => part.isPrefixOf (character :: rest) || occursIn part rest

def endsWord : List Char → Bool
  | [] => true
  | character :: _ => !isWordCharacter character

/-- Replaces `word` where it stands alone. `inWord` says whether a word character came just
before, and `word` is a non-empty run of word characters. -/
def replaceWordAfter (word replacement : List Char) (inWord : Bool) : List Char → List Char
  | [] => []
  | character :: rest =>
      let behind := rest.drop (word.length - 1)
      if !inWord && word.isPrefixOf (character :: rest) && endsWord behind then
        replacement ++ replaceWordAfter word replacement true behind
      else
        character :: replaceWordAfter word replacement (isWordCharacter character) rest
termination_by text => text.length
decreasing_by all_goals simp only [List.length_cons, List.length_drop]; omega

def replaceWord (word replacement text : List Char) : List Char :=
  replaceWordAfter word replacement false text

end GridStore.Text
