/-
Module: Portfolio.Markdown.Tag
Purpose: Recognising HTML: single tags and comments in running text, and the lines that
  start a block of HTML.
Main exports: Markdown.skipInlineHtml, Markdown.HtmlEnd, Markdown.htmlStart?
-/
import Portfolio.Markdown.Character

namespace Portfolio.Markdown

/-! ### Tags -/

/-- The rest after blanks. Line endings count as blanks if they are allowed. -/
def skipTagSpace (multiline : Bool) (cs : List Char) : List Char :=
  cs.dropWhile fun c => isSpace c || (multiline && c == '\n')

/-- The first characters of attribute names. -/
def isAttributeStart (c : Char) : Bool := c.isAlpha || c == '_' || c == ':'

/-- The characters of attribute names. -/
def isAttributeChar (c : Char) : Bool :=
  c.isAlphanum || c == '_' || c == ':' || c == '.' || c == '-'

/-- The characters of values without quotes. -/
def isBareValueChar (c : Char) : Bool :=
  !isAnySpace c && !(['\x22', '\x27', '=', '<', '>', '\x60'].contains c)

/-- The rest after a value between quotes. -/
def skipQuoted (quote : Char) (multiline : Bool) (cs : List Char) : Option (List Char) :=
  let value := cs.takeWhile (· != quote)
  match cs.drop value.length with
  | _ :: rest => if !multiline && value.contains '\n' then none else some rest
  | [] => none

/-- The rest after the value of an attribute. -/
def skipValue (multiline : Bool) (cs : List Char) : Option (List Char) :=
  match cs with
  | '\x22' :: rest => skipQuoted '\x22' multiline rest
  | '\x27' :: rest => skipQuoted '\x27' multiline rest
  | c :: _ => if isBareValueChar c then some (cs.dropWhile isBareValueChar) else none
  | [] => none

/-- The rest after an attribute. -/
def skipAttribute (multiline : Bool) (cs : List Char) : Option (List Char) :=
  match cs with
  | c :: rest =>
      if !isAttributeStart c then none
      else
        let rest := rest.dropWhile isAttributeChar
        match skipTagSpace multiline rest with
        | '=' :: value => skipValue multiline (skipTagSpace multiline value)
        | _ => some rest
  | [] => none

/-- The rest after the attributes of a tag and its end. Blanks stand before every
attribute. The fuel bounds the number of attributes. -/
def skipAttributes (multiline : Bool) : Nat → List Char → Option (List Char)
  | 0, _ => none
  | fuel + 1, cs =>
      match skipTagSpace multiline cs with
      | '>' :: rest | '/' :: '>' :: rest => some rest
      | after =>
          if after.length = cs.length then none
          else (skipAttribute multiline after).bind (skipAttributes multiline fuel)

/-- The rest after the name of a tag. -/
def skipTagName (cs : List Char) : Option (List Char) :=
  match cs with
  | c :: rest =>
      if c.isAlpha then some (rest.dropWhile fun c => c.isAlphanum || c == '-') else none
  | [] => none

/-- The rest after a tag, which starts behind its angle bracket. -/
def skipTag (multiline : Bool) (cs : List Char) : Option (List Char) :=
  match cs with
  | '/' :: rest => do
      let '>' :: rest := (← skipTagName rest).dropWhile isSpace | none
      return rest
  | _ => (skipTagName cs).bind fun rest => skipAttributes multiline (cs.length + 1) rest

/-! ### HTML in running text -/

/-- The rest after the first occurrence of a mark. -/
def skipPast (mark : List Char) : List Char → Option (List Char)
  | [] => none
  | c :: cs => if mark.isPrefixOf (c :: cs) then some ((c :: cs).drop mark.length)
      else skipPast mark cs

/-- The rest after a tag, comment, instruction, declaration or section of raw text, which
starts behind its angle bracket. -/
def skipInlineHtml (cs : List Char) : Option (List Char) :=
  match cs with
  | '!' :: '-' :: '-' :: '>' :: rest | '!' :: '-' :: '-' :: '-' :: '>' :: rest => some rest
  | '!' :: '-' :: '-' :: rest => skipPast "-->".toList rest
  | '!' :: '[' :: 'C' :: 'D' :: 'A' :: 'T' :: 'A' :: '[' :: rest => skipPast "]]>".toList rest
  | '!' :: c :: rest => if c.isAlpha then skipPast ">".toList rest else none
  | '?' :: rest => skipPast "?>".toList rest
  | _ => skipTag true cs

/-! ### Blocks of HTML -/

/-- What ends a block of HTML. -/
inductive HtmlEnd where
  /-- The line that holds a mark. -/
  | mark (text : List Char)
  /-- A blank line. -/
  | blankLine
  deriving DecidableEq, Repr, Inhabited

/-- Elements that hold raw text, and so end with their closing tag. -/
def rawElements : List String := ["pre", "style", "script", "textarea"]

/-- Elements that start a block of HTML with any of their tags. -/
def blockElements : List String := [
  "address", "article", "aside", "base", "basefont", "blockquote", "body", "caption", "center",
  "col", "colgroup", "dd", "details", "dialog", "dir", "div", "dl", "dt", "fieldset",
  "figcaption", "figure", "footer", "form", "frame", "frameset", "h1", "h2", "h3", "h4", "h5",
  "h6", "head", "header", "hr", "html", "iframe", "legend", "li", "link", "main", "menu",
  "menuitem", "nav", "noframes", "ol", "optgroup", "option", "p", "param", "search", "section",
  "summary", "table", "tbody", "td", "tfoot", "th", "thead", "title", "tr", "track", "ul"]

/-- A name in small letters. -/
def smallName (cs : List Char) : String := String.ofList (cs.map Char.toLower)

/-- The line ends after blanks. -/
def isBlankLine (cs : List Char) : Bool := cs.all isSpace

/-- The mark that ends a block which starts with a tag of raw text, a comment, an
instruction, a declaration or a section of raw text. -/
def markEnd? (cs : List Char) : Option (List Char) :=
  let name := cs.takeWhile Char.isAlphanum
  let ends := match cs.drop name.length with
    | [] => true
    | c :: _ => isAnySpace c || c == '>'
  if ends && rawElements.contains (smallName name) then
    some ("</" ++ smallName name ++ ">").toList
  else
    match cs with
    | '!' :: '-' :: '-' :: _ => some "-->".toList
    | '?' :: _ => some "?>".toList
    | '!' :: '[' :: 'C' :: 'D' :: 'A' :: 'T' :: 'A' :: '[' :: _ => some "]]>".toList
    | '!' :: c :: _ => if c.isAlpha then some ">".toList else none
    | _ => none

/-- A line that starts with a tag of a block element, behind its angle bracket. -/
def isBlockTag (cs : List Char) : Bool :=
  let inner := match cs with
    | '/' :: rest => rest
    | _ => cs
  let name := inner.takeWhile Char.isAlphanum
  blockElements.contains (smallName name) &&
    (match inner.drop name.length with
      | [] | ' ' :: _ | '\t' :: _ | '>' :: _ | '/' :: '>' :: _ => true
      | _ => false)

/-- A line of one whole tag and nothing else, behind its angle bracket. -/
def isTagLine (cs : List Char) : Bool := ((skipTag false cs).map isBlankLine).getD false

/-- What ends the block of HTML that a line starts. A line with any one tag starts one
only where no paragraph goes on. -/
def htmlStart? (anyTag : Bool) (cs : List Char) : Option HtmlEnd :=
  match cs with
  | '<' :: rest =>
      match markEnd? rest with
      | some mark => some (.mark mark)
      | none => if isBlockTag rest || (anyTag && isTagLine rest) then some .blankLine else none
  | _ => none

end Portfolio.Markdown
