import JvmSource.Text.Digits

/-!
# Templates

A template is text with placeholders: `%s` stands for the next argument and `%%` for a percent sign.
-/

namespace JvmSource

/-- A template argument. -/
inductive Arg where
  | text (text : Text)
  | int (value : Int)
  | bool (value : Bool)
  | list (items : List Arg)

mutual

/-- The text that an argument is replaced by. -/
def Arg.display : Arg → Text
  | .text value => value
  | .int value => Text.decimal value
  | .bool true => "true".toList
  | .bool false => "false".toList
  | .list items => Arg.displayAll items

/-- The texts of several arguments, with a comma and a space between them. -/
def Arg.displayAll : List Arg → Text
  | [] => []
  | [item] => item.display
  | item :: items => item.display ++ ',' :: ' ' :: Arg.displayAll items

end

namespace Template

/-- Replaces the placeholders of a template from left to right. A placeholder without an argument
and a percent sign with nothing to say are left as they are. -/
def substitute : Text → List Arg → Text
  | '%' :: 's' :: rest, arg :: args => arg.display ++ substitute rest args
  | '%' :: 's' :: rest, [] => '%' :: 's' :: substitute rest []
  | '%' :: '%' :: rest, args => '%' :: substitute rest args
  | c :: rest, args => c :: substitute rest args
  | [], _ => []

/-- Fills in a template. Without arguments it is no template and stays as it is. -/
def format (template : Text) (args : List Arg) : Text :=
  if args.isEmpty then template else substitute template args

end Template

end JvmSource
