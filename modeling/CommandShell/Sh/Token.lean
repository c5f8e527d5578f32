import CommandShell.Sh.Command

/-! # Tokens

What the text of a script is made of above its characters. -/

namespace CommandShell.Sh

inductive Token
  | endOfFile
  | newline
  | semicolon
  | ampersand
  | andIf
  | orIf
  | bar
  | openParen
  | closeParen
  | doubleSemicolon
  | redirection
  | word
  | not
  | caseWord
  | doWord
  | doneWord
  | elifWord
  | elseWord
  | esacWord
  | fiWord
  | forWord
  | ifWord
  | inWord
  | thenWord
  | untilWord
  | whileWord
  | openBrace
  | closeBrace
  deriving DecidableEq, Repr

namespace Token

def reserved : List (String × Token) :=
  [("!", not), ("case", caseWord), ("do", doWord), ("done", doneWord), ("elif", elifWord),
   ("else", elseWord), ("esac", esacWord), ("fi", fiWord), ("for", forWord), ("if", ifWord),
   ("in", inWord), ("then", thenWord), ("until", untilWord), ("while", whileWord),
   ("\x7b", openBrace), ("\x7d", closeBrace)]

def describe : Token → String
  | endOfFile => "end of file"
  | newline => "newline"
  | semicolon => "\";\""
  | ampersand => "\"&\""
  | andIf => "\"&&\""
  | orIf => "\"||\""
  | bar => "\"|\""
  | openParen => "\"(\""
  | closeParen => "\")\""
  | doubleSemicolon => "\";;\""
  | redirection => "redirection"
  | word => "word"
  | t => match reserved.find? (·.2 = t) with
    | some (text, _) => "\"" ++ text ++ "\""
    | none => ""

def endsList : Token → Bool
  | endOfFile | closeParen | doubleSemicolon | doWord | doneWord | elifWord | elseWord | esacWord
  | fiWord | thenWord | closeBrace => true
  | _ => false

end Token

end CommandShell.Sh
