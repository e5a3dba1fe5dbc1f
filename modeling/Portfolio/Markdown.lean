/-
Module: Portfolio.Markdown
Purpose: Markdown as HTML.
Main exports: Markdown.toHtml
-/
import Portfolio.Markdown.Html

namespace Portfolio.Markdown

def toHtml (s : String) : String := (parse s).toHtml

end Portfolio.Markdown
