import PodSite.Text.Basic

/-!
Escaping of text for HTML, with named references in page bodies and numbered ones in page frames.
-/
namespace PodSite.Html

def escapeChar (c : Char) : Text :=
  match c with
  | '&' => "&amp;".toList
  | '<' => "&lt;".toList
  | '>' => "&gt;".toList
  | '"' => "&quot;".toList
  | '\'' => "&#39;".toList
  | c => [c]

def escape (t : Text) : Text := t.flatMap escapeChar

def escapeFrameChar (c : Char) : Text :=
  match c with
  | '&' => "&#38;".toList
  | '<' => "&#60;".toList
  | '>' => "&#62;".toList
  | '"' => "&#34;".toList
  | '\'' => "&#39;".toList
  | c => [c]

/-- Text in the frame around a page body. -/
def escapeFrame (t : Text) : Text := t.flatMap escapeFrameChar

end PodSite.Html
