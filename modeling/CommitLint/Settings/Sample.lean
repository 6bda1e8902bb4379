/-!
# A sample of settings

The file that a new project starts with: every setting with its default, and comments on them.
-/

namespace CommitLint.Settings

/-- The text of the sample. -/
def sample : String :=
  "# cklint configuration file\n" ++
  "# Author: Eshan Roy\n" ++
  "# SPDX-License-Identifier: MIT\n" ++
  "\n" ++
  "# Rule activation. Explicit enables win over disables.\n" ++
  "# Disabled unless enabled here: jirareference, commitbody, spell.\n" ++
  "[rules]\n" ++
  "enabled = []\n" ++
  "disabled = []\n" ++
  "\n" ++
  "[subject]\n" ++
  "max_length = 72\n" ++
  "case = \"lower\"            # lower | upper | ignore\n" ++
  "disallowed_suffixes = \".,;:!?\"\n" ++
  "\n" ++
  "[conventional]\n" ++
  "types = [\"feat\", \"fix\", \"docs\", \"style\", \"refactor\", \"perf\", \"test\", " ++
  "\"build\", \"ci\", \"chore\", \"revert\"]\n" ++
  "scopes = []               # empty allows any scope\n" ++
  "max_description_length = 72\n" ++
  "allow_breaking = true\n" ++
  "require_scope = false\n" ++
  "\n" ++
  "[body]\n" ++
  "required = false\n" ++
  "min_length = 10\n" ++
  "allow_signoff_only = false\n" ++
  "\n" ++
  "[signoff]\n" ++
  "allow_multiple = true\n" ++
  "\n" ++
  "[signature]\n" ++
  "allowed_types = [\"gpg\", \"ssh\"]\n" ++
  "\n" ++
  "[identity]\n" ++
  "allowed_signers = []      # names, emails or key ids\n" ++
  "\n" ++
  "[jira]\n" ++
  "projects = []\n" ++
  "check_body = false        # look for \"Refs: KEY-1\" lines instead of the subject\n" ++
  "\n" ++
  "[imperative]\n" ++
  "base_forms_ed = []\n" ++
  "base_forms_s = []\n" ++
  "base_forms_ing = []\n" ++
  "non_verbs = []\n" ++
  "\n" ++
  "[spell]\n" ++
  "locale = \"US\"             # US | UK\n" ++
  "ignore_words = []\n" ++
  "\n" ++
  "[spell.custom_words]\n" ++
  "# teh = \"the\"\n" ++
  "\n" ++
  "[repository]\n" ++
  "reference_branch = \"main\"\n" ++
  "max_commits_ahead = 20\n" ++
  "skip_merge_commits = true\n" ++
  "timeout_secs = 30         # limit for repository and signature checks; 0 disables\n" ++
  "\n" ++
  "[output]\n" ++
  "format = \"text\"           # text | json | github\n" ++
  "verbose = false\n" ++
  "color = true\n"

end CommitLint.Settings
