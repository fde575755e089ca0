import TreeLint.Config.Basic

/-
  The configuration that is built in.

  Key definitions include:
    * `Config.defaults`

  It describes four linters of a source tree in three
  languages, and the files that they would only trip over:
  generated code and headers of one platform.
-/

------------------------------------------------------------
-- Defaults
------------------------------------------------------------

namespace TreeLint

namespace Config

/- Files that no linter is given unless a layer says otherwise. -/
def defaultBlacklist : List String :=
  [ "atom/browser/mac/atom_application.h",
    "atom/browser/mac/atom_application_delegate.h",
    "atom/browser/resources/win/resource.h",
    "atom/browser/ui/cocoa/atom_menu_controller.h",
    "atom/browser/ui/cocoa/atom_ns_window.h",
    "atom/browser/ui/cocoa/atom_ns_window_delegate.h",
    "atom/browser/ui/cocoa/atom_preview_item.h",
    "atom/browser/ui/cocoa/atom_touch_bar.h",
    "atom/browser/ui/cocoa/touch_bar_forward_declarations.h",
    "atom/browser/ui/cocoa/NSColor+Hex.h",
    "atom/browser/ui/cocoa/NSString+ANSI.h",
    "atom/common/api/api_messages.h",
    "atom/common/common_message_generator.cc",
    "atom/common/common_message_generator.h",
    "atom/common/node_includes.h",
    "atom/node/osfhandle.cc",
    "brightray/browser/mac/bry_inspectable_web_contents_view.h",
    "brightray/browser/mac/event_dispatching_window.h",
    "brightray/browser/mac/notification_center_delegate.h",
    "brightray/browser/win/notification_presenter_win7.h",
    "brightray/browser/win/win32_desktop_notifications/common.h",
    "brightray/browser/win/win32_desktop_notifications/desktop_notification_controller.cc",
    "brightray/browser/win/win32_desktop_notifications/desktop_notification_controller.h",
    "brightray/browser/win/win32_desktop_notifications/toast.h",
    "brightray/browser/win/win32_notification.h" ]

/- The linter of C++ sources. -/
def cppLinter : LinterConfig where
  key := .cpp
  roots := ["atom", "brightray"]
  extensions := ["cc", "h"]
  command := "cpplint.py"
  args := []
  env := Dictionary.empty
  cwd := none
  policy := .cpplint

/- The linter of Python sources. -/
def pythonLinter : LinterConfig where
  key := .python
  roots := ["script"]
  extensions := ["py"]
  command := "pylint.py"
  args :=
    ["--rcfile=\x7broot\x7d/../third_party/depot_tools/pylintrc"]
  env := Dictionary.ofList [("PYTHONPATH", "\x7broot\x7d/script")]
  cwd := none
  policy := .quiet

/- The program that lints JavaScript sources. -/
def standardCommand : String :=
  "\x7broot\x7d/node_modules/.bin/standard"

/- The linter of JavaScript sources. -/
def javaScriptLinter : LinterConfig where
  key := .javaScript
  roots := ["lib", "script"]
  extensions := ["js"]
  command := standardCommand
  args := []
  env := Dictionary.empty
  cwd := some "\x7broot\x7d"
  policy := .exitStatus

/- The linter of JavaScript tests. -/
def testLinter : LinterConfig :=
  { javaScriptLinter with
    roots := ["spec"]
    cwd := some "\x7broot\x7d/spec" }

/- The configuration onto which every layer is merged. -/
def defaults : Config :=
  ⟨"", defaultBlacklist,
    [cppLinter, pythonLinter, javaScriptLinter, testLinter]⟩

end Config

end TreeLint
