/-
Module: Portfolio.Template.Shared
Purpose: The templates and snippets that every site has, whatever its schema.
Main exports: Template.sharedFiles
-/
import Portfolio.Template.Page

namespace Portfolio.Template

/-- The start of every page. Its tags stay open until the footer. -/
def headerMarkup (language : String) : List Markup := [
  .fixed ("<!DOCTYPE html>\n<html lang=\"" ++ language ++ "\">\n<head>\n" ++
    "  <meta charset=\"utf-8\">\n" ++
    "  <meta name=\"viewport\" content=\"width=device-width, initial-scale=1\">\n  <title>"),
  echo "$site->title()->esc()",
  .fixed " | ",
  echo "$page->title()->esc()",
  .fixed "</title>\n  ",
  echo "css('assets/css/main.css')",
  .fixed ("\n</head>\n<body>\n  <header class=\"site-header\">\n    <div class=\"container\">\n" ++
    "      <a class=\"site-title\" href=\""),
  echo "$site->url()",
  .fixed "\">",
  echo "$site->title()->esc()",
  .fixed "</a>\n      <nav class=\"site-nav\">\n        ",
  php (.loop "$site->children()->not('home', 'error') as $item"),
  .fixed "\n        <a href=\"",
  echo "$item->url()",
  .fixed "\"",
  php (.call "e($item->isOpen(), ' aria-current=\"page\"')"),
  .fixed ">",
  echo "$item->title()->esc()",
  .fixed "</a>\n        ",
  php .endLoop,
  .fixed "\n      </nav>\n    </div>\n  </header>\n"]

/-- The end of every page. -/
def footerMarkup : List Markup := [
  .fixed "  <footer class=\"site-footer\">\n    <div class=\"container\">\n      <p>&copy; ",
  echo "date('Y')",
  .fixed " ",
  echo "$site->title()->esc()",
  .fixed "</p>\n    </div>\n  </footer>\n</body>\n</html>\n"]

/-- The title of a page, and a link to the page above it. -/
def pageHeaderMarkup : List Markup := [
  box "header" "page-header container"
    (.element "h1" [] [echo "$page->title()->esc()"] ::
      ifTrue "$page->parent()" [
        box "p" "page-header__parent" [
          .element "a" [echoed "href" "$page->parent()->url()"]
            [echo "$page->parent()->title()->esc()"]]]),
  newline]

/-- A page as a card with its image and title. -/
def cardMarkup : List Markup := [
  box "article" "card" [
    .element "a" [echoed "href" "$card->url()"]
      (ifTrue "$image = $card->image()" [
        .void "img" [echoed "src" "$image->crop(600, 400)->url()",
          echoed "alt" "$image->alt()->esc('attr')", ⟨"loading", .text "lazy"⟩]] ++
        [box "h3" "card__title" [echo "$card->title()->esc()"]])],
  newline]

/-- Cards for the pages of a list. -/
def cards (head card : String) : Markup :=
  box "div" "cards" (forEach head [php (.snippet "card" (some ("card", card)))])

/-- The template of pages without one of their own. -/
def defaultMarkup : List Markup :=
  wrapPage (box "main" "page" [
    newline, php (.snippet "page-header" none), newline,
    box "article" "container"
      (ifTrue "$page->text()->isNotEmpty()"
          [box "div" "prose" [echo "$page->text()->kirbytext()"]] ++
        ifTrue "$page->hasListedChildren() || $page->hasUnlistedChildren()"
          [cards "$page->children() as $child" "$child"]),
    newline])

/-- The template of the home page: every collection with its latest pages. -/
def homeMarkup : List Markup :=
  wrapPage (box "main" "page page--home" (
    [box "section" "hero container"
        (.element "h1" [] [echo "$site->title()->esc()"] ::
          ifTrue "$site->description()->isNotEmpty()"
            [box "p" "hero__lead" [echo "$site->description()->esc()"]]),
      newline] ++
    forEach "$site->children()->not('home', 'error') as $collection" [
      box "section" "collection container" [
        .element "h2" [] [.element "a" [echoed "href" "$collection->url()"]
          [echo "$collection->title()->esc()"]],
        cards "$collection->children()->listed()->limit(6) as $child" "$child"]] ++
    [newline]))

/-- The templates and snippets that every site has. -/
def sharedFiles (language : String) : List File := [
  .ofText (snippetPath "header") (renderAll (headerMarkup language)),
  .ofText (snippetPath "footer") (renderAll footerMarkup),
  .ofText (snippetPath "page-header") (renderAll pageHeaderMarkup),
  .ofText (snippetPath "card") (renderAll cardMarkup),
  .ofText (templatePath "default") (renderAll defaultMarkup),
  .ofText (templatePath "home") (renderAll homeMarkup)]

end Portfolio.Template
