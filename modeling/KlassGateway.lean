import KlassGateway.Base
import KlassGateway.Lib.Typestate
import KlassGateway.Lib.Footprint
import KlassGateway.Lib.Text
import KlassGateway.Lib.Json
import KlassGateway.Orchestrator.Lifecycle
import KlassGateway.Orchestrator.AuditPayload
import KlassGateway.Db.MediaGenerations
import KlassGateway.Lib.Table
import KlassGateway.Lib.SqlUpdate
import KlassGateway.Lib.ReadMergeWrite
import KlassGateway.Db.DynamicUpdates
import KlassGateway.Db.PartialUpdates
import KlassGateway.Lib.Sorting
import KlassGateway.Db.RecommendedProjects
import KlassGateway.Db.Reorder
import KlassGateway.Orchestrator.AuditTrail
import KlassGateway.Orchestrator.Fingerprint
import KlassGateway.Orchestrator.Decision
import KlassGateway.Orchestrator.Rounding
import KlassGateway.Orchestrator.GenerationSpec
import KlassGateway.Lib.RedisStream
import KlassGateway.Lib.KeyedStream
import KlassGateway.MediaGen.Publication
import KlassGateway.Llm.Services
import KlassGateway.MediaGen.Renderer
import KlassGateway.Db.Database
import KlassGateway.MediaGen.PublishSteps
import KlassGateway.Queue.Redis
import KlassGateway.Effects
import KlassGateway.Orchestrator.Services
import KlassGateway.Orchestrator.Workflow
import KlassGateway.Llm.StepAdapters
import KlassGateway.Lib.Search
import KlassGateway.Standards.ContentStandards
import KlassGateway.Standards.Detection
import KlassGateway.Llm.Clarification
import KlassGateway.Llm.EnrichPrompt
import KlassGateway.Guarantees.Clarification
import KlassGateway.Guarantees.EnrichPrompt
import KlassGateway.Guarantees.Answers
import KlassGateway.Guarantees.Topic
import KlassGateway.MediaGen.PythonClient
import KlassGateway.Queue.Worker
import KlassGateway.Orchestrator.Submission
import KlassGateway.Api.Handlers
import KlassGateway.Api.Auth
import KlassGateway.Api.Listing
import KlassGateway.Api.Clarification
import KlassGateway.Api.AdminUpdates
import KlassGateway.Api.AdminProjects
import KlassGateway.AuthSystem
import KlassGateway.AuthStages
import KlassGateway.System
import KlassGateway.Footprints
import KlassGateway.Requests
import KlassGateway.JobCalls
import KlassGateway.Rows
import KlassGateway.Sequential
import KlassGateway.Reachable
import KlassGateway.Guarantees.Status
import KlassGateway.Guarantees.GenerationStatus
import KlassGateway.Guarantees.Workflow
import KlassGateway.Guarantees.Classification
import KlassGateway.Guarantees.Submission
import KlassGateway.Guarantees.HandOver
import KlassGateway.Guarantees.RunsPerJob
import KlassGateway.Lib.Words
import KlassGateway.Lib.Lowercase
import KlassGateway.Lib.JsonText
import KlassGateway.Guarantees.Fingerprint
import KlassGateway.Guarantees.AuditTrail
import KlassGateway.Guarantees.FailureText
import KlassGateway.Guarantees.Reprocessing
import KlassGateway.Guarantees.PromptPayloads
import KlassGateway.Guarantees.Callback
import KlassGateway.Guarantees.Authentication
import KlassGateway.Guarantees.Registration
import KlassGateway.Guarantees.Sessions
import KlassGateway.Guarantees.Listing
import KlassGateway.Guarantees.Chain
import KlassGateway.Guarantees.PartialUpdates
import KlassGateway.Guarantees.Reorder
import KlassGateway.Guarantees.PatchBodies
import KlassGateway.Guarantees.ProjectSchedule
import KlassGateway.Guarantees.RendererErrors
import KlassGateway.Contracts.InterpretationRepair
import KlassGateway.Contracts.PlanMode
import KlassGateway.Guarantees.PlanMode
import KlassGateway.Guarantees.DraftRepair
import KlassGateway.Guarantees.Fallbacks
import KlassGateway.Guarantees.InterpretationRepair
import KlassGateway.Guarantees.CachedInterpretation
import KlassGateway.Guarantees.GenerationSpec
import KlassGateway.Guarantees.ContractValues
import KlassGateway.Guarantees.PublicationCleanup
import KlassGateway.Guarantees.Publication
import KlassGateway.Guarantees.DeliveryPayload
import KlassGateway.Guarantees.Thumbnail
import KlassGateway.Cache.CacheKey
import KlassGateway.Llm.DocumentRequests
import KlassGateway.Guarantees.CachedDocuments
import KlassGateway.Providers.Router
import KlassGateway.Providers.OpenRouter
import KlassGateway.Guarantees.ProviderRouter
import KlassGateway.Guarantees.MarkdownJson
import KlassGateway.Guarantees.Grades
import KlassGateway.Auth.RateLimit
import KlassGateway.Guarantees.RateLimit
import KlassGateway.Queue.Breaker
import KlassGateway.Queue.Wire
import KlassGateway.Queue.Outcomes
import KlassGateway.Guarantees.WorkerBreaker
import KlassGateway.Recommendation.Personalization
import KlassGateway.Recommendation.Aggregation
import KlassGateway.Guarantees.FeedOrder
import KlassGateway.Guarantees.CandidateSelection
import KlassGateway.Lib.Grouping
import KlassGateway.Recommendation.Distribution
import KlassGateway.Recommendation.Taxonomy
import KlassGateway.Recommendation.SubjectTaxonomy
import KlassGateway.Guarantees.Distribution
import KlassGateway.Guarantees.TaxonomyRanking
import KlassGateway.Guarantees.SubjectTaxonomy
import KlassGateway.Matching.Freelancers
import KlassGateway.Guarantees.Matching
import KlassGateway.Guarantees.OutputDecision
import KlassGateway.Queue.DeadLetterRetry
import KlassGateway.Guarantees.DeadLetterRetry
import KlassGateway.Guarantees.DeadLetterMoves
import KlassGateway.Guarantees.JobRounds
import KlassGateway.Guarantees.TaskCommands
import KlassGateway.Guarantees.RetryChain
import KlassGateway.Lib.Upsert
import KlassGateway.Lib.Windowing
import KlassGateway.Lib.Firsts
import KlassGateway.Governance.RateLimit
import KlassGateway.Guarantees.Windows
import KlassGateway.Recommendation.PublishedTopics
import KlassGateway.Guarantees.PublishedTopics
import KlassGateway.Recommendation.Assignments
import KlassGateway.Guarantees.Assignments
import KlassGateway.Guarantees.Avatar
import KlassGateway.Guarantees.AdvisoryLock
import KlassGateway.Guarantees.Quotas
import KlassGateway.Guarantees.CacheStore
import KlassGateway.Guarantees.ProviderCalls
import KlassGateway.Lib.Naming
import KlassGateway.Guarantees.OwnRows
import KlassGateway.Guarantees.JobOwners
import KlassGateway.Guarantees.Resubmission
import KlassGateway.Lib.Knowledge
import KlassGateway.Guarantees.NamedRows
