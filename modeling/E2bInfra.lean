import E2bInfra.Go.Strings
import E2bInfra.Proxy.ParseUint
import E2bInfra.Proxy.Host
import E2bInfra.S3.Read
import E2bInfra.S3.Object
import E2bInfra.S3.Dir
import E2bInfra.S3.Store
import E2bInfra.Template.Cache
import E2bInfra.Template.Concurrent
import E2bInfra.Orchestrator.Lifecycle
import E2bInfra.TemplateManager.LocalClient
import E2bInfra.TemplateManager.Calls
import E2bInfra.Api.StartBuild
import E2bInfra.Api.ConcurrentBuilds
import E2bInfra.Api.WithTemplateManager
import E2bInfra.Registry.Route
import E2bInfra.Registry.Aws
import E2bInfra.Registry.Startup
import E2bInfra.Scripts.SeedDb
