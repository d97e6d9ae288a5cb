import FirstMatch.Arithmetic.Calculation
import FirstMatch.Comparison
import FirstMatch.Scanner

/-!
# Errors

All that can go wrong, with the message for each cause and the class of errors
to which it belongs.
-/

namespace FirstMatch

inductive ErrorClass where
  | invalidArgument
  | emptyValue
  | invalidState
  | missingOperands
  | endOfTokens
  | immutable
  | divisionByZero
  | unknownKey
  | wrongType
  | wrongValue
  | overflow
  | badIndex
  deriving DecidableEq, Repr

inductive FieldChange where
  | assign
  | delete
  deriving DecidableEq, Repr

inductive Error where
  | token (e : EmptyValue)
  | build (e : BuildFault)
  | scanner (e : ScannerFault)
  | cursor (e : Cursor.Failure Refusal)
  | outside (e : Outside)
  | arithmetic (e : Arithmetic.Fault)
  | unhashable (e : Unhashable)
  | immutable (change : FieldChange) (field : Text)
  | noToken
  | notTokens (typeName : String)
  | noMember

def Pattern.Fault.errorClass : Pattern.Fault → ErrorClass
  | illFormed _ _ => .invalidArgument
  | localeNeedsBytes | asciiAndUnicode | tooManyDigits _ => .wrongValue
  | repetitionTooLarge | numberTooLarge => .overflow

def Refusal.errorClass : Refusal → ErrorClass
  | scripted _ => .invalidArgument
  | startTooLarge => .overflow

def BuildFault.errorClass : BuildFault → ErrorClass
  | notText | unhashable => .wrongType
  | badPattern _ fault => fault.errorClass
  | refused refusal => refusal.errorClass
  | missingKind | missingPattern | missingText | notAPattern _ => .invalidArgument

def Arithmetic.Fault.errorClass : Arithmetic.Fault → ErrorClass
  | badNumber _ _ => .wrongValue
  | missingOperands _ _ => .missingOperands
  | unknownOperator _ => .unknownKey
  | unhashable => .wrongType
  | divisionByZero => .divisionByZero

namespace Cursor.Failure

def errorClass : Failure Refusal → ErrorClass
  | refused refusal => refusal.errorClass
  | emptyValue _ => .emptyValue
  | finished => .endOfTokens
  | released => .invalidState

def message : Failure Refusal → Text
  | refused refusal => refusal.message
  | emptyValue e => e.message
  | finished => #[]
  | released => text "Cannot reset a released token cursor."

end Cursor.Failure

namespace Error

def errorClass : Error → ErrorClass
  | token _ => .emptyValue
  | build e => e.errorClass
  | scanner _ => .invalidArgument
  | cursor e => e.errorClass
  | outside _ => .invalidArgument
  | arithmetic e => e.errorClass
  | unhashable _ => .wrongType
  | immutable _ _ => .immutable
  | noToken => .wrongType
  | notTokens _ => .wrongType
  | noMember => .badIndex

def message : Error → Text
  | token e => e.message
  | build e => e.message
  | scanner e => e.message
  | cursor e => e.message
  | outside e => e.message
  | arithmetic e => e.message
  | unhashable e => e.message
  | immutable .assign field => text "cannot assign to field " ++ field.quoted
  | immutable .delete field => text "cannot delete field " ++ field.quoted
  | noToken => text "'<=' not supported between instances of 'int' and 'NoneType'"
  | notTokens typeName => text "'" ++ text typeName ++ text "' object is not iterable"
  | noMember => text "list index out of range"

end Error

def Datum.typeName : Datum → String
  | none => "NoneType"
  | truth _ => "bool"
  | int _ => "int"
  | text _ => "str"
  | arithmetic _ => "RpnTokenType"
  | list _ => "list"

def LineIndex.build : Option Text → Except Error LineIndex
  | some t => .ok (ofText t)
  | none => .error (.scanner .missingText)

def LineIndex.locationOfNew (x : LineIndex) (token : Except EmptyValue Token) :
    Except Error Location :=
  match token with
  | .ok token => (x.locationOf token).mapError .outside
  | .error e => .error (.token e)

def Arithmetic.calculateDatum : Datum → Except Error Int
  | .text expression => (calculateExpression expression).mapError .arithmetic
  | value => .error (.notTokens value.typeName)

end FirstMatch
