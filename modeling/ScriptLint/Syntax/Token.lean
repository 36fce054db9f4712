import ScriptLint.Syntax.Concrete

/-!
Tokens and comments of a concrete tree.

The leaves of the tree are its tokens. Strings, templates and regular expressions stay whole, but a
comment inside a template is still listed as a comment.
-/
namespace ScriptLint

inductive TokenKind where
  | punctuator
  | keyword
  | identifier
  | string
  | template
  | numeric
  | regExp
  | other
  deriving DecidableEq, Repr

structure Token where
  kind : TokenKind
  span : Span
  deriving DecidableEq, Repr

inductive CommentKind where
  | line
  | block
  deriving DecidableEq, Repr

structure Comment where
  kind : CommentKind
  span : Span
  deriving DecidableEq, Repr

namespace TokenKind

/-- Keywords are the unnamed symbols that are words. -/
def ofInfo (info : ConcreteInfo) : TokenKind :=
  if !info.isNamed then
    if info.kind.toList.head?.any Char.isAlpha then .keyword else .punctuator
  else match info.kind with
    | "identifier" | "property_identifier" | "shorthand_property_identifier"
    | "shorthand_property_identifier_pattern" | "private_property_identifier"
    | "statement_identifier" | "type_identifier" => .identifier
    | "string" => .string
    | "template_string" => .template
    | "number" => .numeric
    | "regex" => .regExp
    | "true" | "false" | "null" | "undefined" | "this" | "super" => .keyword
    | _ => .other

end TokenKind

namespace Concrete

def isComment (info : ConcreteInfo) : Bool :=
  info.kind == "comment" || info.kind == "html_comment"

def isAtomic (info : ConcreteInfo) : Bool :=
  info.kind == "string" || info.kind == "template_string" || info.kind == "regex"

mutual
def tokens : Concrete → List Token
  | node info children =>
    if isComment info then []
    else if isAtomic info || children.isEmpty then
      if info.span.isEmpty then [] else [⟨.ofInfo info, info.span⟩]
    else tokensOf children

def tokensOf : List Concrete → List Token
  | [] => []
  | n :: ns => tokens n ++ tokensOf ns
end

def commentAt (text : Text) (span : Span) : Comment :=
  ⟨if (Text.stripPrefix? ['/', '*'] (text.slice span)).isSome then .block else .line, span⟩

mutual
def nestedComments (text : Text) : Concrete → List Comment
  | node info children =>
    if info.kind == "comment" then [commentAt text info.span] else nestedCommentsOf text children

def nestedCommentsOf (text : Text) : List Concrete → List Comment
  | [] => []
  | n :: ns => nestedComments text n ++ nestedCommentsOf text ns
end

mutual
def comments (text : Text) : Concrete → List Comment
  | node info children =>
    if isComment info then [commentAt text info.span]
    else if isAtomic info then nestedCommentsOf text children
    else commentsOf text children

def commentsOf (text : Text) : List Concrete → List Comment
  | [] => []
  | n :: ns => comments text n ++ commentsOf text ns
end

end Concrete

end ScriptLint
