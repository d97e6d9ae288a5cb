import FirstMatch.Text.Lines
import FirstMatch.Text.Numeral
import FirstMatch.Text.Quoted

/-!
# What can be wrong with a pattern

A problem of the pattern's form is reported with the place where it was noticed.
The others concern the flags or a number that does not fit.
-/

namespace FirstMatch.Pattern

inductive Problem where
  | unterminatedGroup
  | unbalancedParenthesis
  | nothingToRepeat
  | multipleRepeat
  | leastAboveMost
  | unterminatedSet
  | badRange (first last : Text)
  | danglingBackslash
  | badEscape (escape : Text)
  | incompleteEscape (escape : Text)
  | octalTooLarge (escape : Text)
  | missingBrace
  | missingCharacterName
  | undefinedCharacter (name : Text)
  | missingGroupName
  | unterminatedName (terminator : Char)
  | badGroupName (name : Text)
  | unknownGroup (name : Text)
  | redefinedGroup (name : Text) (group earlier : Nat)
  | badGroupNumber
  | invalidReference (group : Nat)
  | openGroup
  | sameLookBehind
  | tooManyBranches
  | unexpectedEnd
  | unknownExtension (extension : Text)
  | unterminatedComment
  | missingFlagsEnd
  | missingFlag
  | missingColon
  | unknownFlag
  | lateGlobalFlags
  | localeFlag
  | incompatibleFlags
  | flagOnAndOff
  | alphabetTurnedOff
  | globalFlagOn
  | globalFlagOff
  | tooFarBehind
  | variableLookBehind
  | templateRepetition (operator : String)
  deriving DecidableEq, Repr

namespace Problem

def message : Problem → Text
  | unterminatedGroup => text "missing ), unterminated subpattern"
  | unbalancedParenthesis => text "unbalanced parenthesis"
  | nothingToRepeat => text "nothing to repeat"
  | multipleRepeat => text "multiple repeat"
  | leastAboveMost => text "min repeat greater than max repeat"
  | unterminatedSet => text "unterminated character set"
  | badRange first last => text "bad character range " ++ first ++ text "-" ++ last
  | danglingBackslash => text "bad escape (end of pattern)"
  | badEscape escape => text "bad escape " ++ escape
  | incompleteEscape escape => text "incomplete escape " ++ escape
  | octalTooLarge escape =>
    text "octal escape value " ++ escape ++ text " outside of range 0-0o377"
  | missingBrace => text "missing \x7b"
  | missingCharacterName => text "missing character name"
  | undefinedCharacter name => text "undefined character name " ++ name.quoted
  | missingGroupName => text "missing group name"
  | unterminatedName terminator =>
    text "missing " ++ #[terminator.toNat] ++ text ", unterminated name"
  | badGroupName name => text "bad character in group name " ++ name.quoted
  | unknownGroup name => text "unknown group name " ++ name.quoted
  | redefinedGroup name group earlier =>
    text "redefinition of group name " ++ name.quoted ++ text " as group " ++ decimal group ++
      text "; was group " ++ decimal earlier
  | badGroupNumber => text "bad group number"
  | invalidReference group => text "invalid group reference " ++ decimal group
  | openGroup => text "cannot refer to an open group"
  | sameLookBehind => text "cannot refer to group defined in the same lookbehind subpattern"
  | tooManyBranches => text "conditional backref with more than two branches"
  | unexpectedEnd => text "unexpected end of pattern"
  | unknownExtension extension => text "unknown extension " ++ extension
  | unterminatedComment => text "missing ), unterminated comment"
  | missingFlagsEnd => text "missing -, : or )"
  | missingFlag => text "missing flag"
  | missingColon => text "missing :"
  | unknownFlag => text "unknown flag"
  | lateGlobalFlags => text "global flags not at the start of the expression"
  | localeFlag => text "bad inline flags: cannot use 'L' flag with a str pattern"
  | incompatibleFlags => text "bad inline flags: flags 'a', 'u' and 'L' are incompatible"
  | flagOnAndOff => text "bad inline flags: flag turned on and off"
  | alphabetTurnedOff => text "bad inline flags: cannot turn off flags 'a', 'u' and 'L'"
  | globalFlagOn => text "bad inline flags: cannot turn on global flag"
  | globalFlagOff => text "bad inline flags: cannot turn off global flag"
  | tooFarBehind => text "looks too much behind"
  | variableLookBehind => text "look-behind requires fixed-width pattern"
  | templateRepetition operator =>
    text "internal: unsupported template operator " ++ text operator

end Problem

inductive Fault where
  | illFormed (problem : Problem) (position : Option Nat)
  | localeNeedsBytes
  | asciiAndUnicode
  | repetitionTooLarge
  | tooManyDigits (count : Nat)
  | numberTooLarge
  deriving DecidableEq, Repr

def positionNote (pattern : Text) (position : Nat) : Text :=
  text " at position " ++ decimal position ++
    if pattern.any CodePoint.isBreak then
      let place := pattern.locate position
      text " (line " ++ decimal place.line ++ text ", column " ++ decimal place.column ++
        text ")"
    else #[]

namespace Fault

def message (pattern : Text) : Fault → Text
  | illFormed problem position =>
    text "Could not compile pattern " ++ pattern.quoted ++ text ": " ++ problem.message ++
      (position.map (positionNote pattern)).getD #[]
  | localeNeedsBytes => text "cannot use LOCALE flag with a str pattern"
  | asciiAndUnicode => text "ASCII and UNICODE flags are incompatible"
  | repetitionTooLarge => text "the repetition number is too large"
  | tooManyDigits count => Numeral.tooLongMessage count
  | numberTooLarge => text "Python int too large to convert to C int"

end Fault

end FirstMatch.Pattern
