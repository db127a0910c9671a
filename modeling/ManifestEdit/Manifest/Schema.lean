import ManifestEdit.Document.Reading

/-!
# The manifest's schema

The records of a manifest with their fields as they are declared. Keys are hyphenated; `type` has a
spelling of its own in each record that declares it.
-/

namespace ManifestEdit

namespace Schema

open DeclaredField

/-! ## Shapes shared by several fields -/

def texts : Shape := .list .text

def oneOrMany : Shape :=
  .oneOf [("str", .text), ("list[str]", texts)]

def textMap : Shape := .map .text

def flagMap : Shape := .map .flag

/-- A flag, or the one word that may stand for it. -/
def toggle (keyword : String) : Shape :=
  .oneOf [("bool", .flag), ("literal['" ++ keyword ++ "']", .word [keyword])]

/-! ## Words -/

def stabilities : Shape := .word ["dev", "alpha", "beta", "RC", "stable"]

def repositoryTypes : Shape :=
  .word ["composer", "vcs", "package", "artifact", "path", "git", "github", "gitlab", "bitbucket",
    "fossil", "hg", "svn"]

def gitProtocols : Shape := .word ["git", "http", "https", "ssh"]

def binaryCompatibilities : Shape := .word ["auto", "full", "proxy", "symlink"]

def packageSources : Shape := .word ["dist", "source", "auto"]

/-! ## Records within the manifest -/

def author : Schema :=
  ⟨"Author", false,
    [(mandatory "name", .text), (optional "email", .text), (optional "homepage", .text),
      (optional "role", .text)]⟩

def support : Schema :=
  ⟨"Support", false,
    ["email", "issues", "forum", "wiki", "irc", "source", "docs", "rss", "chat", "security"].map
      fun (key : String) => (optional key, .text)⟩

def funding : Schema :=
  ⟨"Funding", false,
    [((optional "platform").keyed "type", .text), (optional "url", .text)]⟩

def autoload : Schema :=
  ⟨"Autoload", false,
    [(optional "psr_4", .map oneOrMany), (optional "psr_0", .map oneOrMany),
      (optional "classmap", texts), (optional "files", texts),
      (optional "exclude_from_classmap", texts)]⟩

def repository : Schema :=
  ⟨"Repository", false,
    [((mandatory "repository_type").keyed "type", repositoryTypes), (optional "url", .text)]⟩

def archive : Schema :=
  ⟨"Archive", false, [(optional "name", .text), (optional "exclude", texts)]⟩

def audit : Schema :=
  ⟨"Audit", false, [(optional "ignored", texts), (optional "abandoned", .text)]⟩

def bitbucketOauth : Schema :=
  ⟨"BitbucketOauth", false,
    [(mandatory "consumer_key", .text), (mandatory "consumer_secret", .text)]⟩

def basicAuth : Schema :=
  ⟨"BasicAuth", false, [(mandatory "username", .text), (mandatory "password", .text)]⟩

def gitlabCredentials : Schema :=
  ⟨"GitlabCredentials", false, [(mandatory "username", .text), (mandatory "token", .text)]⟩

/-! ## Values of several shapes -/

/-- The label of a record among the members of a union. -/
def recordLabel : String := "function-wrap[remember_key_order()]"

/-- The label of the keys of a map that are patterns. -/
def patternLabel : String := "function-plain[_validate()]"

def abandoned : Shape :=
  .oneOf [("bool", .flag), ("str", .text)]

def allowPlugins : Shape :=
  .oneOf [("bool", .flag), ("dict[" ++ patternLabel ++ ",bool]", flagMap)]

def preferredInstall : Shape :=
  .oneOf [("enum[PackageSource]", packageSources),
    ("dict[" ++ patternLabel ++ ",enum[PackageSource]]", .map packageSources)]

/-- A version to pretend, or `false` to hide the package. -/
def platformPackage : Shape :=
  .oneOf [("literal[False]", .off), ("str", .text)]

/-- A bare token, or a user with a token. -/
def gitlabToken : Shape :=
  .oneOf [("str", .text), (recordLabel, gitlabCredentials.shape)]

/-- A repository, or a switch for one that is named elsewhere. -/
def repositoryEntry : Shape :=
  .oneOf [(recordLabel, repository.shape), ("bool", .flag), ("dict[str,bool]", flagMap)]

/-- Repositories stand in a list or under names. -/
def repositories : Shape :=
  .oneOf [("list[union[" ++ recordLabel ++ ",bool,dict[str,bool]]]", .list repositoryEntry),
    ("dict[str,union[" ++ recordLabel ++ ",bool,dict[str,bool]]]", .map repositoryEntry)]

/-! ## The configuration -/

def config : Schema :=
  ⟨"Config", false,
    [(optional "process_timeout", .count), (optional "allow_plugins", allowPlugins),
      (optional "use_include_path", .flag), (optional "preferred_install", preferredInstall),
      (optional "audit", audit.shape), (optional "use_parent_dir", toggle "prompt"),
      (optional "store_auths", toggle "prompt"),
      (optional "github_protocols", .list gitProtocols), (optional "github_oauth", textMap),
      (optional "gitlab_domains", texts), (optional "gitlab_oauth", textMap),
      (optional "gitlab_token", .map gitlabToken), (optional "gitlab_protocol", gitProtocols),
      (optional "disable_tls", .flag), (optional "secure_http", .flag),
      (optional "bitbucket_oauth", .map bitbucketOauth.shape), (optional "cafile", .text),
      (optional "capath", .text), (optional "http_basic", .map basicAuth.shape),
      (optional "bearer", textMap), (optional "platform", .map platformPackage),
      (optional "vendor_dir", .text), (optional "bin_dir", .text), (optional "data_dir", .text),
      (optional "cache_dir", .text), (optional "cache_files_dir", .text),
      (optional "cache_repo_dir", .text), (optional "cache_vcs_dir", .text),
      (optional "cache_files_ttl", .count), (optional "cache_files_maxsize", .text),
      (optional "cache_read_only", .flag), (optional "bin_compat", binaryCompatibilities),
      (optional "prepend_autoloader", .flag), (optional "autoloader_suffix", .text),
      (optional "optimize_autoloader", .flag), (optional "sort_packages", .flag),
      (optional "classmap_authoritative", .flag), (optional "apcu_autoloader", .flag),
      (optional "github_domains", texts), (optional "github_expose_hostname", .flag),
      (optional "use_github_api", .flag), (optional "notify_on_install", .flag),
      (optional "discard_changes", toggle "stash"), (optional "archive_format", .text),
      (optional "archive_dir", .text), (optional "htaccess_protect", .flag),
      (optional "lock", .flag), (optional "platform_check", toggle "php-only"),
      (optional "secure_svn_domains", texts)]⟩

/-! ## The manifest -/

def manifest : Schema :=
  ⟨"Manifest", false,
    [(mandatory "name", .text), (optional "description", .text), (optional "version", .text),
      ((optional "package_type").keyed "type", .text), (optional "keywords", texts),
      (optional "homepage", .text), (optional "readme", .text), (optional "time", .text),
      (optional "license", oneOrMany), (optional "authors", .list author.shape),
      (optional "support", support.shape), (optional "funding", .list funding.shape),
      (optional "require", textMap), (optional "require_dev", textMap),
      (optional "conflict", textMap), (optional "replace", textMap),
      (optional "provide", textMap), (optional "suggest", textMap),
      (optional "autoload", autoload.shape), (optional "autoload_dev", autoload.shape),
      (optional "include_path", texts), (optional "target_dir", .text),
      (optional "minimum_stability", stabilities), (optional "prefer_stable", .flag),
      (optional "repositories", repositories), (optional "config", config.shape),
      (optional "scripts", .map oneOrMany), (optional "scripts_descriptions", textMap),
      (optional "scripts_aliases", .map texts), (optional "extra", .anything),
      (optional "bin", texts), (optional "archive", archive.shape),
      (optional "abandoned", abandoned), (optional "non_feature_branches", texts)]⟩

end Schema

end ManifestEdit
