/-
Module: Portfolio.Scaffold
Purpose: The files of a site that do not depend on its schema.
Main exports: Scaffold.files
-/
import Portfolio.Config.Basic
import Portfolio.File
import Portfolio.Json.Printer
import Portfolio.Naming
import Portfolio.Text.Line

namespace Portfolio.Scaffold

/-- Lines, each with its line end. -/
def ofLines (lines : List String) : String := String.join (lines.map (· ++ "\n"))

def phpBool (b : Bool) : String := if b then "true" else "false"

/-- The settings file of the content management system. -/
def configPhp (site : SiteSettings) : String := ofLines [
  "<?php",
  "",
  "return [",
  "    'debug' => " ++ phpBool site.debug ++ ",",
  "    'panel' => [",
  "        'install' => " ++ phpBool site.panelInstall ++ ",",
  "    ],",
  "    'date' => [",
  "        'handler' => 'date',",
  "    ],",
  "];"]

/-- What version control leaves alone. -/
def gitignore : String := ofLines [
  "# Kirby",
  "/kirby",
  "/vendor",
  "/media/*",
  "!/media/.gitkeep",
  "",
  "# Runtime",
  "/site/accounts",
  "/site/cache",
  "/site/sessions",
  "/site/config/.license",
  "",
  "# System",
  ".DS_Store",
  ".env"]

/-- The rules of the web server. -/
def htaccess : String := ofLines [
  "# Kirby .htaccess",
  "",
  "<IfModule mod_rewrite.c>",
  "",
  "RewriteEngine on",
  "",
  "# block text files in the content folder from being accessed directly",
  "RewriteRule ^content/(.*)\\.(txt|md|mdown)$ index.php [L]",
  "",
  "# block all files in the site folder from being accessed directly",
  "RewriteRule ^site/(.*) index.php [L]",
  "",
  "# block direct access to Kirby and the panel sources",
  "RewriteRule ^kirby/(.*) index.php [L]",
  "",
  "# make site links work",
  "RewriteCond %\x7bREQUEST_FILENAME\x7d !-f",
  "RewriteCond %\x7bREQUEST_FILENAME\x7d !-d",
  "RewriteRule ^(.*) index.php [L]",
  "",
  "</IfModule>",
  "",
  "# pass the Authorization header to PHP",
  "SetEnvIf Authorization \"(.+)\" HTTP_AUTHORIZATION=$1",
  "",
  "# compress text file responses",
  "<IfModule mod_deflate.c>",
  "AddOutputFilterByType DEFLATE text/plain",
  "AddOutputFilterByType DEFLATE text/html",
  "AddOutputFilterByType DEFLATE text/css",
  "AddOutputFilterByType DEFLATE text/javascript",
  "AddOutputFilterByType DEFLATE application/json",
  "AddOutputFilterByType DEFLATE application/javascript",
  "</IfModule>"]

/-- The rules for crawlers. -/
def robots : String := ofLines ["User-agent: *", "Disallow: /panel", "Allow: /"]

/-- The entry point of the site. -/
def indexPhp : String := ofLines [
  "<?php",
  "",
  "require __DIR__ . '/kirby/bootstrap.php';",
  "",
  "echo (new Kirby)->render();"]

/-- The script that starts a development server. -/
def serveScript : String := ofLines [
  "#!/bin/sh",
  "# Run the site with PHP's built-in development server.",
  "set -e",
  "cd \"$(dirname \"$0\")\"",
  "exec php -S \"$\x7bHOST:-localhost\x7d:$\x7bPORT:-8000\x7d\" kirby/router.php"]

/-- The command that starts a development server. -/
def serveCommand (site : SiteSettings) : String :=
  if site.devServerScript then "./serve.sh" else "php -S localhost:8000 kirby/router.php"

/-- The description of the site for its developers. -/
def readme (site : SiteSettings) : String := ofLines [
  "# " ++ site.title,
  "",
  "A Kirby site generated from a portfolio content model.",
  "",
  "## Setup",
  "",
  "```sh",
  "composer install",
  serveCommand site,
  "```",
  "",
  "Open <http://localhost:8000> for the site and <http://localhost:8000/panel>",
  "to create the first panel account.",
  "",
  "## Layout",
  "",
  "- `content/`: one folder per collection, one text file per item",
  "- `site/blueprints/`: panel forms for every content type",
  "- `site/templates/`, `site/snippets/`: page templates",
  "- `assets/css/`: stylesheets built from the design tokens",
  "",
  "Regenerating the site overwrites these files."]

/-- The name of the site as a package. -/
def packageName (title : String) : String :=
  let slug := Naming.slug title
  "portfolio/" ++ if slug.isEmpty then "site" else slug

/-- The description of the site for the package manager, its keys in byte order. -/
def composerValue (site : SiteSettings) : Value :=
  .map [
    ("config", .map [
      ("allow-plugins", .map [("getkirby/composer-installer", .bool true)]),
      ("optimize-autoloader", .bool true)]),
    ("description", .text site.title),
    ("name", .text (packageName site.title)),
    ("require", .map [("getkirby/cms", .text "^4.0"), ("php", .text ">=8.1")]),
    ("type", .text "project")]

/-- A text with its line feeds as a backslash and an `n`. -/
def singleLine (s : String) : String :=
  String.ofList (s.toList.flatMap fun c => if c == '\n' then ['\\', 'n'] else [c])

/-- Folders that have to be there even without files. -/
def placeholders : List String :=
  ["site/plugins/.gitkeep", "assets/images/.gitkeep", "media/.gitkeep"]

/-- The files of a site that do not depend on its schema. -/
def files (site : SiteSettings) : List File :=
  [.ofText "site/config/config.php" (configPhp site),
    .ofText ".gitignore" gitignore,
    .ofText ".htaccess" htaccess,
    .ofText "robots.txt" robots,
    .ofText "index.php" indexPhp,
    .ofText "README.md" (readme site),
    .ofText "composer.json" (Json.pretty (composerValue site) ++ "\n"),
    .ofText "content/site.txt" ("Title: " ++ singleLine site.title ++ "\n"),
    .ofText "content/home/home.txt" "Title: Home\n"] ++
    placeholders.map (fun path => .ofText path "") ++
    (if site.devServerScript then
      [{ File.ofText "serve.sh" serveScript with executable := true }]
    else [])

end Portfolio.Scaffold
